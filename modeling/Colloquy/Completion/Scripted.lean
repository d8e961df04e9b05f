import Colloquy.Completion.Basic

/-! A completion client that plays back prepared outcomes and records what it was asked. Once the
script is used up it fails, or echoes what it was sent. -/

namespace Colloquy

/-- A request as it was made: the messages sent and the names of the tools offered. -/
structure RecordedRequest where
  messages : List Message
  tools : List String

inductive WhenExhausted where
  | fail
  | echo
deriving DecidableEq, Repr

structure ScriptedClient where
  script : List CompletionResult := []
  requests : List RecordedRequest := []
  whenExhausted : WhenExhausted := .fail

namespace ScriptedClient

def modelName : String := "scripted"

def resultLine (r : ToolResult) : String := s!"{r.toolName}: {r.payload.payloadText}"

def nothingToEcho : String := "Nothing to echo yet."

/-- Goes back over the messages, latest first, with the result lines met so far. -/
def echoBack : List Message → List String → Completion
  | [], [] => .answer nothingToEcho
  | [], lines => .answer ("\n".intercalate lines)
  | .toolResult r :: earlier, lines => echoBack earlier (resultLine r :: lines)
  | .user t :: _, [] => .answer s!"You said: {t}"
  | .user _ :: _, lines => .answer ("\n".intercalate lines)
  | .assistant _ _ :: earlier, lines => echoBack earlier lines
  | .system _ :: earlier, lines => echoBack earlier lines

/-- The echo of a request: the results since the last user message, or else that message. -/
def echo (messages : List Message) : Completion := echoBack messages.reverse []

def push (c : ScriptedClient) (outcome : CompletionResult) : ScriptedClient :=
  { c with script := c.script ++ [outcome] }

def remaining (c : ScriptedClient) : Nat := c.script.length

/-- Answers a request with the next outcome of the script. -/
def request (c : ScriptedClient) (snapshot : Snapshot) (tools : List ToolSchema) : CompletionResult × ScriptedClient :=
  let noted := { c with requests := c.requests ++ [⟨snapshot.messages, tools.map (·.name)⟩] }
  match c.script, c.whenExhausted with
  | outcome :: rest, _ => (outcome, { noted with script := rest })
  | [], .echo => (.ok (echo snapshot.messages), noted)
  | [], .fail => (.error (.malformed "scripted client has no more outcomes"), noted)

end ScriptedClient

end Colloquy
