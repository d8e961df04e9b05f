/-! JSON values. An object lists its members in the order in which they are written: by key in a
value that was read or composed, by declaration in a record of the program. Integers and doubles are
kept apart, since their written forms differ. -/

namespace Colloquy

/-- A JSON number: an integer of at most 64 bits, signed or unsigned, or a double. -/
inductive Number where
  | int (n : Int)
  | float (x : Float)
deriving DecidableEq

/-- The integers written and read as such: `-2^63` to `2^64 - 1`. -/
def Number.isWordSized (n : Int) : Bool := -0x8000000000000000 ≤ n && n ≤ 0xFFFFFFFFFFFFFFFF

inductive Json where
  | null
  | bool (b : Bool)
  | num (n : Number)
  | str (s : String)
  | arr (items : List Json)
  | obj (members : List (String × Json))
deriving Inhabited

namespace Json

abbrev Members := List (String × Json)

instance : Coe String Json := ⟨.str⟩
instance : Coe Bool Json := ⟨.bool⟩

def int (n : Int) : Json := .num (.int n)

def nat (n : Nat) : Json := .num (.int n)

/-- The text, or null where there is none. -/
def ofText? (s : Option String) : Json := s.elim .null .str

/-- Sets a member in a list ordered by key; a member of the same key is replaced. -/
def insert (key : String) (value : Json) : Members → Members
  | [] => [(key, value)]
  | (k, v) :: rest =>
    if key < k then (key, value) :: (k, v) :: rest
    else if key = k then (key, value) :: rest
    else (k, v) :: insert key value rest

/-- The object with the given members, in whatever order they come; of two members of one key the
later counts. -/
def ofMembers (members : Members) : Json := .obj (members.foldl (fun ms m => insert m.1 m.2 ms) [])

mutual

/-- The value with the members of every object in the order of their keys. -/
def sorted : Json → Json
  | .arr items => .arr (sortedItems items)
  | .obj members => .obj (sortedMembers members [])
  | j => j

def sortedItems : List Json → List Json
  | [] => []
  | v :: vs => v.sorted :: sortedItems vs

def sortedMembers : List (String × Json) → Members → Members
  | [], done => done
  | (k, v) :: ms, done => sortedMembers ms (insert k v.sorted done)

end

/-- The member of an object; nothing in a value of another kind. -/
def get? (j : Json) (key : String) : Option Json :=
  match j with
  | .obj ms => ms.lookup key
  | _ => none

/-- The member of an object, null where there is none. -/
def get (j : Json) (key : String) : Json := (j.get? key).getD .null

/-- Follows members of nested objects. -/
def at? (j : Json) : List String → Option Json
  | [] => some j
  | key :: path => (j.get? key).bind (·.at? path)

def asText? : Json → Option String
  | .str s => some s
  | _ => none

def isNull : Json → Bool
  | .null => true
  | _ => false

end Json

end Colloquy
