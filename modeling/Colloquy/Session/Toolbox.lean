import Colloquy.Session.Client
import Colloquy.Tool.Schema

/-! The tools of a connected server. A `Toolbox` refuses calls without asking the server once its
session has failed or was shut down, and calls of tools that the server did not announce. -/

namespace Colloquy.Session

structure Toolbox where
  client : Client
  serverName : String
  schemas : List ToolSchema
  closed : Bool := false
  /-- A call failed in a way that leaves the session unusable. -/
  broken : Bool := false
  /-- Tickets of the calls under way. -/
  calling : List Nat := []

/-- What a toolbox answers: the outcome of a call, or that of a shutdown. -/
inductive Reply where
  | outcome (o : ToolOutcome)
  | stopped (result : Except ToolError Unit)

/-- What happens to a toolbox. -/
inductive ToolboxEvent where
  | invoke (ticket : Nat) (name : String) (arguments : Json)
  | shutdown (ticket : Nat)
  | session (e : Event)

/-- A failed call as the model is told of it. -/
def SessionError.toToolError : SessionError → ToolError
  | .timeout _ limit => .timeout (limit / 1000)
  | .server code message =>
    if code = -32602 then .invalidParams message
    else .executionFailed s!"Server error ({code.toInt}): {message}"
  | .transport reason | .protocol reason => .protocol reason

namespace Toolbox

abbrev Step := Toolbox × List (Effect Reply)

/-- The outcome of a call from what the session answered. -/
def outcomeOf : AnswerResult → ToolOutcome
  | .ok (.call result) => if result.isError then .error (.executionFailed result.text) else .ok (.str result.text)
  | .ok _ => .ok .null
  | .error e => .error e.toToolError

/-- The result of a shutdown from what the session answered. -/
def stoppedOf : AnswerResult → Except ToolError Unit
  | .ok _ => .ok ()
  | .error e => .error (.protocol e.message)

/-- An outcome that breaks the session. -/
def breaks : ToolOutcome → Bool
  | .error e => e.isFatal
  | .ok _ => false

/-- One effect of the client, as an effect of the toolbox. -/
def relay (b : Toolbox) : Effect AnswerResult → Toolbox × Effect Reply
  | .hold ticket => (b, .hold ticket)
  | .send frame => (b, .send frame)
  | .receive => (b, .receive)
  | .close => (b, .close)
  | .abandon => (b, .abandon)
  | .arm ticket request => (b, .arm ticket request)
  | .accept ticket id value => (b, .accept ticket id value)
  | .answer ticket result =>
    if b.calling.contains ticket then
      let outcome := outcomeOf result
      ({ b with calling := b.calling.filter (· != ticket), broken := b.broken || breaks outcome },
        .answer ticket (.outcome outcome))
    else (b, .answer ticket (.stopped (stoppedOf result)))

def relayAll (b : Toolbox) : List (Effect AnswerResult) → Step
  | [] => (b, [])
  | e :: es =>
    let (b, e) := b.relay e
    let (b, es) := b.relayAll es
    (b, e :: es)

/-- Passes an event on to the client. -/
def session (b : Toolbox) (e : Event) : Step :=
  let (client, effects) := b.client.step e
  { b with client }.relayAll effects

/-- Why a call is refused without asking the server. -/
def refusal? (b : Toolbox) (name : String) : Option ToolError :=
  if b.closed then some (.protocol "MCP session is closed")
  else if b.broken then some (.protocol "MCP session failed earlier")
  else if b.schemas.any (·.name == name) then none
  else some (.notFound name)

def step (b : Toolbox) : ToolboxEvent → Step
  | .invoke ticket name arguments => match b.refusal? name with
    | some e => (b, [.answer ticket (.outcome (.error e))])
    | none => { b with calling := b.calling ++ [ticket] }.session (.ask ticket (.callTool name arguments))
  | .shutdown ticket =>
    if b.closed then (b, [.answer ticket (.stopped (.ok ()))])
    else { b with closed := true }.session (.ask ticket .close)
  | .session (.withdrawn tickets) =>
    { b with calling := b.calling.filter (fun t => !tickets.contains t) }.session (.withdrawn tickets)
  | .session e => b.session e

/-- The toolbox as text for developers. -/
def debugText (b : Toolbox) (quote : String → String) : String :=
  "McpTransport \x7b server_name: " ++ quote b.serverName ++ s!", tools: {b.schemas.length}" ++
    s!", call_timeout: {Text.durationText b.client.limit}, broken: {b.broken}" ++ " \x7d"

end Toolbox

end Colloquy.Session
