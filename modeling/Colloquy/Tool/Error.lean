/-! Why a tool call gave no payload. -/

namespace Colloquy

inductive ToolError where
  | notFound (name : String)
  | invalidParams (reason : String)
  | executionFailed (reason : String)
  | timeout (seconds : Nat)
  /-- The session with the tool server can no longer be used. -/
  | protocol (reason : String)
  | cancelled
deriving DecidableEq, Repr

namespace ToolError

def message : ToolError → String
  | .notFound name => s!"Tool not found: {name}"
  | .invalidParams reason => s!"Invalid parameters: {reason}"
  | .executionFailed reason => s!"Execution failed: {reason}"
  | .timeout seconds => s!"Tool timed out after {seconds} seconds"
  | .protocol reason => s!"Protocol error: {reason}"
  | .cancelled => "Cancelled by user"

/-- The error ends the turn in which it occurs. -/
def isFatal : ToolError → Bool
  | .protocol _ => true
  | _ => false

end ToolError

end Colloquy
