import Colloquy.Server.Basic
import Colloquy.Tool.Local

/-! Serving the program's own tools to others. -/

namespace Colloquy.Server

variable {m : Type → Type} [Monad m]

/-- The text that tells a model why a call failed: a tool's own words, or else the error's. -/
def failureText : ToolError → String
  | .executionFailed reason => reason
  | e => e.message

def servedOutcome : ToolOutcome → Except String Json
  | .ok payload => .ok payload
  | .error e => .error (failureText e)

/-- The handler of a set of tools. -/
def handlerOf (t : LocalTools m) : Handler m where
  tools := pure (t.registry.schemas.map Rpc.ServerTool.ofSchema)
  call name arguments := (fun timed => servedOutcome timed.outcome) <$> t.invoke name arguments

end Colloquy.Server
