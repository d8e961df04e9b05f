import Colloquy.Server.Serve
import Colloquy.Server.ToolHandler
import Colloquy.Tool.Builtin

/-! The weather server: the built-in tools, served over a stream of lines. -/

namespace Colloquy.Server

variable {m : Type → Type} [Monad m]

def weatherIdentity : Identity := ⟨"weather", "0.1.0"⟩

/-- The built-in tools over a web. -/
def weatherTools (fetch : Http.Fetch m) : LocalTools m := { registry := builtinRegistry { fetch } { fetch } }

def weatherHandler (fetch : Http.Fetch m) : Handler m := handlerOf (weatherTools fetch)

/-- The status with which the server ends: a line that is no text is an error. -/
def Served.status (s : Served) : Nat := if s.fault.isSome then 1 else 0

/-- Serves all bytes of a stream. -/
def serveWeather (fetch : Http.Fetch m) (input : Text.Bytes) : m Served := serve (weatherHandler fetch) weatherIdentity input

end Colloquy.Server
