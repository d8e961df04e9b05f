import Colloquy.Json.Printer
import Colloquy.Tool.Schema

/-! The entries of a conversation. -/

namespace Colloquy

/-- A call of a tool that a model asked for. -/
structure ToolCall where
  /-- Given by the provider and repeated by the result. -/
  id : String
  toolName : String
  /-- Checked by the tool and by nobody else. -/
  arguments : Json

/-- The result of a tool call. -/
structure ToolResult where
  callId : String
  toolName : String
  payload : Json
  isError : Bool

inductive Message where
  | user (text : String)
  | system (text : String)
  | assistant (text : Option String) (calls : List ToolCall)
  | toolResult (result : ToolResult)

namespace Message

/-- An answer without tool calls. -/
def answer (text : String) : Message := .assistant (some text) []

/-- A failed call: the reason stands in the payload. -/
def failure (call : ToolCall) (reason : String) : Message :=
  .toolResult ⟨call.id, call.toolName, .obj [("error", reason)], true⟩

/-- The outcome of a call as an entry. -/
def ofOutcome (call : ToolCall) : ToolOutcome → Message
  | .ok payload => .toolResult ⟨call.id, call.toolName, payload, false⟩
  | .error e => failure call e.message

def role : Message → String
  | .user _ => "user"
  | .system _ => "system"
  | .assistant _ _ => "assistant"
  | .toolResult _ => "tool"

def text? : Message → Option String
  | .user t | .system t => some t
  | .assistant t _ => t
  | .toolResult _ => none

/-- The calls that the entry issues. -/
def calls : Message → List ToolCall
  | .assistant _ cs => cs
  | _ => []

/-- The payload of a result as the text shown to a model. -/
def payloadText? : Message → Option String
  | .toolResult r => some r.payload.payloadText
  | _ => none

end Message

end Colloquy
