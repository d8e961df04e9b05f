import Colloquy.Config.Basic
import Colloquy.Conversation.Ids
import Colloquy.Turn.Dialogue
import Colloquy.Turn.Phase

/-! Turns of a conversation. A turn takes the user's text, asks for completions, has the tools called
that they want, and ends with an answer or a failure. `Conversation.turn` is the turn as a dialogue:
all that it decides is in the tree, and the world only answers. -/

namespace Colloquy

/-- What turns work on: the settings, the tools offered, the history, and where the turn is. -/
structure Conversation where
  config : TurnConfig
  schemas : List ToolSchema
  ids : IdSupply
  history : History := []
  phase : Phase := .awaitingInput
  /-- The changes of phase so far, oldest first. -/
  trail : List (Phase × Phase) := []

abbrev TurnResult := Except Failure String

/-- A turn under way: the conversation asks, and what comes of it is a result and the conversation
after it. -/
abbrev Turn := Dialogue Conversation (TurnResult × Conversation)

namespace Conversation

/-- A conversation over the tools of a transport; the settings have to be valid. -/
def start (config : TurnConfig) (schemas : List ToolSchema) (ids : IdSupply) : Except Failure Conversation :=
  config.validate.map (fun _ => { config, schemas, ids })

def clear (c : Conversation) : Conversation := { c with history := [] }

def append (c : Conversation) (m : Message) : Conversation := { c with history := c.history ++ [m] }

def enter (c : Conversation) (p : Phase) : Conversation := { c with phase := p, trail := c.trail ++ [(c.phase, p)] }

/-- Ends the turn. -/
def finish (c : Conversation) (result : TurnResult) : Turn := .done (result, c.enter .awaitingInput)

/-- Ends the turn after a cancellation: open calls are answered, so the history stays sendable. -/
def cancelled (c : Conversation) : Turn :=
  { c with history := c.history.close .cancelled }.finish (.error .cancelled)

/-- Ends the turn with an answer. -/
def answer (c : Conversation) (text : String) : Turn :=
  ((c.append (.answer text)).enter .answered).finish (.ok text)

/-- The first fatal error, given the one met before and a further outcome. -/
def firstFatal (before : Option ToolError) (outcome : ToolOutcome) : Option ToolError :=
  match before, outcome with
  | some e, _ => some e
  | none, .error e => if e.isFatal then some e else none
  | none, .ok _ => none

/-- Records the outcomes of calls in order; yields the first fatal error. -/
def recordAll (c : Conversation) (fatal : Option ToolError) : List (ToolCall × ToolOutcome) → Conversation × Option ToolError
  | [] => (c, fatal)
  | (call, outcome) :: rest => (c.append (.ofOutcome call outcome)).recordAll (firstFatal fatal outcome) rest

/-- The outcome of a call that is not made because an earlier one ended the session. -/
def notExecuted (e : ToolError) : ToolOutcome := .error (.protocol s!"Not executed: {e.message}")

/-- Makes calls one after another, up to the first fatal error; the rest is answered without a call. -/
def oneByOne (c : Conversation) (fatal : Option ToolError) (next : Conversation → Option ToolError → Turn) :
    List ToolCall → Turn
  | [] => next c fatal
  | call :: rest => match fatal with
    | some e => oneByOne (c.append (.ofOutcome call (notExecuted e))) fatal next rest
    | none => .select c.cancelled <| .invoke c [call] fun
      | none => c.cancelled
      | some outcomes =>
        oneByOne (c.append (.ofOutcome call outcomes[0])) (firstFatal none outcomes[0]) next rest

/-- Makes all calls at the same time. -/
def atOnce (c : Conversation) (next : Conversation → Option ToolError → Turn) (calls : List ToolCall) : Turn :=
  .select c.cancelled <| .invoke c calls fun
    | none => c.cancelled
    | some outcomes =>
      let (c, fatal) := c.recordAll none (calls.zip outcomes.toList)
      next c fatal

def execute (c : Conversation) (calls : List ToolCall) (next : Conversation → Option ToolError → Turn) : Turn :=
  if c.config.parallelTools then c.atOnce next calls else c.oneByOne none next calls

/-- The tools offered in a round. -/
def offered (c : Conversation) (isFinal : Bool) : List ToolSchema :=
  if isFinal && !c.config.offerToolsOnFinalRound then [] else c.schemas

/-- Asks for a completion; failure and cancellation end the turn. -/
def request (c : Conversation) (isFinal : Bool) (next : Completion → Turn) : Turn :=
  .select c.cancelled <| .complete c c.history.snapshot (c.offered isFinal) fun
    | none => c.cancelled
    | some (.error e) => c.finish (.error (.completion e))
    | some (.ok completion) => next completion

/-- What becomes of tool calls in the last permitted round. -/
def atLimit (c : Conversation) (text : Option String) : Turn :=
  match c.config.roundLimit with
  | .forceAnswer => c.answer (text.getD "")
  | .error => c.finish (.error (.roundLimit c.config.maxRounds))

/-- Takes a batch of calls into the history, with new ids for those whose ids are taken; yields the
calls as they stand there. -/
def issue (c : Conversation) (round : Nat) (text : Option String) (asked : List ToolCall) :
    List ToolCall × Conversation :=
  let (calls, ids) := renewIds c.history.issues c.ids [] asked
  (calls, { (c.append (.assistant text calls)) with ids }.enter (.executing round calls.length))

/-- The rounds of a turn from the given one on, with `left` rounds to come after it. -/
def rounds (c : Conversation) (round left : Nat) : Turn :=
  let c := c.enter (.requesting round)
  match left with
  | 0 => c.request true fun
    | .answer text => c.answer text
    | .batch text [] => c.answer (text.getD "")
    | .batch text (_ :: _) => c.atLimit text
  | left + 1 => c.request false fun
    | .answer text => c.answer text
    | .batch text [] => c.answer (text.getD "")
    | .batch text (call :: calls) =>
      let (calls, c) := c.issue round text (call :: calls)
      c.execute calls fun c fatal => match fatal with
        | some e => c.finish (.error (.protocol e.message))
        | none => c.rounds (round + 1) left

/-- The history with the user's text, after the system prompt if it is the first. -/
def opened (c : Conversation) (text : String) : Conversation :=
  let c := match c.history, c.config.systemPrompt with
    | [], some prompt => c.append (.system prompt)
    | _, _ => c
  c.append (.user text)

/-- One turn. -/
def turn (c : Conversation) (text : String) : Turn := (c.opened text).rounds 1 (c.config.maxRounds - 1)

end Conversation

end Colloquy
