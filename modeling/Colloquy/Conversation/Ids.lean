import Colloquy.Conversation.History

/-! Ids for calls whose own id cannot be kept. -/

namespace Colloquy

/-- A supply of ids. -/
structure IdSupply where
  /-- The id with a number. -/
  name : Nat → String
  /-- The number of the next id to hand out. -/
  next : Nat := 0

namespace IdSupply

def hex32 (n : Nat) : List Char :=
  let ds := Nat.toDigits 16 (n % Nat.pow 16 32)
  List.replicate (32 - ds.length) '0' ++ ds

/-- Ids of the form `call_` and 32 hexadecimal digits. -/
def numbered : IdSupply := ⟨fun n => String.ofList ("call_".toList ++ hex32 (0x5eed4a11c0110c1a4b1d5e7a00000000 + n)), 0⟩

/-- The ids of that form from a number on. -/
def numberedFrom (first : Nat) : IdSupply := { numbered with next := first }

/-- The next id, and the supply without it. -/
def take (s : IdSupply) : String × IdSupply := (s.name s.next, { s with next := s.next + 1 })

end IdSupply

/-- Gives a new id to each call of a batch whose own id is unusable or is that of an earlier call of
the batch. `seen` holds the ids of the calls before. -/
def renewIds (unusable : String → Bool) : IdSupply → List String → List ToolCall → List ToolCall × IdSupply
  | s, _, [] => ([], s)
  | s, seen, c :: cs =>
    if unusable c.id || seen.contains c.id then
      let (id, s) := s.take
      let (rest, s) := renewIds unusable s (id :: seen) cs
      ({ c with id } :: rest, s)
    else
      let (rest, s) := renewIds unusable s (c.id :: seen) cs
      (c :: rest, s)

end Colloquy
