import Colloquy.Tool.Registry

/-! Tools of the program itself, called by name within a time limit. Calls may have effects, so
they are written for any monad. -/

namespace Colloquy

/-- An outcome and the milliseconds it takes. -/
structure Timed where
  delay : Nat := 0
  outcome : ToolOutcome

/-- What is left of a call under a limit in milliseconds. -/
def Timed.within (limit : Nat) (t : Timed) : Timed :=
  if t.delay ≤ limit then t else ⟨limit, .error (.timeout (limit / 1000))⟩

structure LocalTools (m : Type → Type) where
  registry : Registry (Json → m Timed)
  limit : Nat := 30000

namespace LocalTools

variable {m : Type → Type} [Monad m]

/-- Calls a tool. -/
def invoke (t : LocalTools m) (name : String) (arguments : Json) : m Timed :=
  match t.registry.get? name with
  | none => pure { outcome := .error (.notFound name) }
  | some tool => Timed.within t.limit <$> tool.action arguments

end LocalTools

end Colloquy
