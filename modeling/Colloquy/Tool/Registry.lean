import Std.Data.HashMap
import Colloquy.Error

/-! Tools in the order of their registration, found by name. -/

namespace Colloquy

/-- A tool: what is said of it, and what a call does. -/
structure Tool (α : Type) where
  schema : ToolSchema
  action : α

def Tool.name {α : Type} (t : Tool α) : String := t.schema.name

/-- Registered tools with an index from names to positions. -/
structure Registry (α : Type) where
  tools : Array (Tool α) := #[]
  index : Std.HashMap String Nat := {}

namespace Registry

variable {α : Type}

/-- The name is taken. -/
structure NameTaken where
  name : String
deriving DecidableEq, Repr

def NameTaken.message (e : NameTaken) : String := s!"Tool '{e.name}' is already registered"

def NameTaken.failure (e : NameTaken) : Failure := .config e.message

def empty : Registry α := {}

/-- Adds a tool behind the others, unless its name is taken. -/
def register (r : Registry α) (t : Tool α) : Except NameTaken (Registry α) :=
  if r.index.contains t.name then .error ⟨t.name⟩
  else .ok ⟨r.tools.push t, r.index.insert t.name r.tools.size⟩

/-- Registers a tool in place. A registry that refuses it stays as it is. -/
def enter (r : Registry α) (t : Tool α) : Except Failure Unit × Registry α :=
  match r.register t with
  | .ok larger => (.ok (), larger)
  | .error e => (.error e.failure, r)

/-- The registry with one more tool. -/
def withTool (r : Registry α) (t : Tool α) : Except Failure (Registry α) := (r.register t).mapError NameTaken.failure

def get? (r : Registry α) (name : String) : Option (Tool α) :=
  r.index[name]?.bind (fun (i : Nat) => r.tools[i]?)

def schemas (r : Registry α) : List ToolSchema := r.tools.toList.map (·.schema)

def names (r : Registry α) : List String := r.tools.toList.map (·.name)

def size (r : Registry α) : Nat := r.tools.size

/-- Registers tools one after another, up to the first whose name is taken. -/
def registerAll (r : Registry α) : List (Tool α) → Except NameTaken (Registry α)
  | [] => .ok r
  | t :: ts => (r.register t).bind (·.registerAll ts)

end Registry

end Colloquy
