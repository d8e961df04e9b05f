import Colloquy.Conversation.Message
import Colloquy.Tool.Local

/-! Tools that are ready to be called, of the program itself or of a server. -/

namespace Colloquy.Console

/-- Tools: their schemas, how calls are carried out, and the state that this changes. -/
structure Tooling where
  State : Type
  state : State
  schemas : List ToolSchema
  /-- The name of the server that has them, if one has. -/
  server : Option String
  invoke : (calls : List ToolCall) → State → Vector ToolOutcome calls.length × State

/-- The tools of the program itself. -/
def Tooling.ofLocal (tools : LocalTools Id) : Tooling where
  State := Unit
  state := ()
  schemas := tools.registry.schemas
  server := none
  invoke calls s :=
    let outcome (c : ToolCall) : ToolOutcome := (Id.run (tools.invoke c.toolName c.arguments)).outcome
    (Vector.ofFn fun i => outcome calls[i], s)

end Colloquy.Console
