import Colloquy.Completion.Basic

/-! The log of interactions with a completion service: one JSON object for each round. -/

namespace Colloquy

structure LogEntry where
  model : String := ""
  provider : Option String := none
  messages : List Message := []
  tools : List ToolSchema := []
  outcome : Option Completion := none
  error : Option String := none

def Completion.logJson : Completion → Json
  | .answer t => .obj [("type", "message"), ("content", t)]
  | .batch t calls => .obj [("type", "tool_calls"), ("content", .ofText? t), ("tool_calls", .arr (calls.map ToolCall.toJson))]

/-- The logged object, without the time of writing. -/
def LogEntry.toJson (e : LogEntry) : Json :=
  .obj [("model", e.model), ("provider", .ofText? e.provider),
    ("request", .obj [
      ("messages", .arr (e.messages.map Message.toJson)), ("message_count", .nat e.messages.length),
      ("tools", .arr (e.tools.map (fun t => .str t.name))), ("tool_count", .nat e.tools.length)]),
    ("response", e.outcome.elim .null Completion.logJson), ("error", .ofText? e.error)]

end Colloquy
