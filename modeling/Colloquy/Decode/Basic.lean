import Colloquy.Json.Printer
import Colloquy.Text.Quoted

/-! Reading records out of JSON values. A record may be given as an object or as an array of its
fields in order. `Reading` describes the fields once; `record` runs the description on either form
and reports one fault: in an object the bad field with the least key, else the first missing field;
in an array the first place at which it goes wrong. -/

namespace Colloquy.Decode

/-- The kind of value that was found. -/
inductive Found where
  | null
  | bool (b : Bool)
  | num (n : Number)
  | text (s : String)
  | sequence
  | map

def Found.ofJson : Json → Found
  | .null => .null
  | .bool b => .bool b
  | .num n => .num n
  | .str s => .text s
  | .arr _ => .sequence
  | .obj _ => .map

/-- What was asked for. -/
inductive Expected where
  | text
  | boolean
  | sequence
  | map
  /-- An integer of the named width. -/
  | integer (width : String)
  | record (name : String)
  /-- An array with all fields of a record. -/
  | fieldsOf (name : String) (size : Nat)
  /-- At most the fields of a record. -/
  | fewerItems
  /-- A number of items exactly. -/
  | items (count : Nat)
  /-- One of several records, told apart by a tag. -/
  | tagged (name : String)
  /-- The name of a variant. -/
  | variantName
  /-- A variant, as a name or as an object. -/
  | variant
  | singleKey
  /-- No content beside a variant's name. -/
  | nothing

/-- Why a JSON value is no value of a type. -/
inductive Fault where
  | missingField (name : String)
  | unknownVariant (found : String) (known : List String)
  | wrongKind (found : Found) (expected : Expected)
  | outOfRange (found : Found) (expected : Expected)
  | wrongLength (length : Nat) (expected : Expected)
  /-- No form of the named type fits. -/
  | noForm (type : String)

def Found.describe : Found → String
  | .null => "null"
  | .bool true => "boolean `true`"
  | .bool false => "boolean `false`"
  | .num (.int n) => s!"integer `{n}`"
  | .num n => s!"floating point `{String.ofList n.text}`"
  | .text s => s!"string {Text.quoted s}"
  | .sequence => "sequence"
  | .map => "map"

def counted (n : Nat) : String := if n == 1 then "1 element" else s!"{n} elements"

def Expected.describe : Expected → String
  | .text => "a string"
  | .boolean => "a boolean"
  | .sequence => "a sequence"
  | .map => "a map"
  | .integer width => width
  | .record name => s!"struct {name}"
  | .fieldsOf name size => s!"struct {name} with {counted size}"
  | .fewerItems => "fewer elements in array"
  | .items count => s!"{counted count} in sequence"
  | .tagged name => s!"internally tagged enum {name}"
  | .variantName => "variant identifier"
  | .variant => "string or map"
  | .singleKey => "map with a single key"
  | .nothing => "unit"

def oneOf (known : List String) : String :=
  match known with
  | [] => "there are no variants"
  | [a] => s!"expected `{a}`"
  | [a, b] => s!"expected `{a}` or `{b}`"
  | names => "expected one of " ++ ", ".intercalate (names.map (fun n => s!"`{n}`"))

def Fault.message : Fault → String
  | .missingField name => s!"missing field `{name}`"
  | .unknownVariant found known => s!"unknown variant `{found}`, {oneOf known}"
  | .wrongKind found expected => s!"invalid type: {found.describe}, expected {expected.describe}"
  | .outOfRange found expected => s!"invalid value: {found.describe}, expected {expected.describe}"
  | .wrongLength n expected => s!"invalid length {n}, expected {expected.describe}"
  | .noForm type => s!"data did not match any variant of untagged enum {type}"

abbrev Result (α : Type) := Except Fault α

def wrongKind {α : Type} (j : Json) (expected : Expected) : Result α := .error (.wrongKind (.ofJson j) expected)

/-! ### Simple values -/

def text : Json → Result String
  | .str s => .ok s
  | j => wrongKind j .text

def boolean : Json → Result Bool
  | .bool b => .ok b
  | j => wrongKind j .boolean

/-- An integer within bounds. -/
def integer (width : String) (low high : Int) : Json → Result Int
  | .num (.int n) =>
    if low ≤ n && n ≤ high then .ok n else .error (.outOfRange (.num (.int n)) (.integer width))
  | j => wrongKind j (.integer width)

def natural (width : String) (bits : Nat) (j : Json) : Result Nat :=
  (integer width 0 (Int.ofNat (Nat.pow 2 bits - 1)) j).map Int.toNat

def anything : Json → Result Json := .ok

def list {α : Type} (item : Json → Result α) : Json → Result (List α)
  | .arr items => items.mapM item
  | j => wrongKind j .sequence

/-! ### Records -/

/-- Whether a record stands by itself or inside a value whose tag is read first; the two report
surplus items in different words. -/
inductive Setting where
  | plain
  | tagged
deriving DecidableEq, Repr

/-- The fields of a record as they were given. -/
inductive Slots where
  | named (members : Json.Members)
  | positional (items : List Json)

/-- What is wrong with one field. -/
inductive Blame where
  | bad (key : String) (fault : Fault)
  | absent (key : String) (index : Nat)

/-- A description of fields that yields a value or the faults of all of them, in field order. -/
structure Reading (α : Type) where
  run : Slots → Except (List Blame) α

def Reading.both {α β : Type} (f : Reading (α → β)) (x : Reading α) : Reading β where
  run slots := match f.run slots, x.run slots with
    | .ok g, .ok a => .ok (g a)
    | .ok _, .error b => .error b
    | .error a, .ok _ => .error a
    | .error a, .error b => .error (a ++ b)

instance : Functor Reading where
  map g x := ⟨fun slots => (x.run slots).map g⟩

instance : Applicative Reading where
  pure a := ⟨fun _ => .ok a⟩
  seq f x := f.both (x ())

/-- The value given for a field. -/
def Slots.find? (slots : Slots) (key : String) (index : Nat) : Option Json :=
  match slots with
  | .named members => members.lookup key
  | .positional items => items[index]?

def Slots.isNamed : Slots → Bool
  | .named _ => true
  | .positional _ => false

def given {α : Type} (key : String) (read : Json → Result α) (j : Json) : Except (List Blame) α :=
  match read j with
  | .ok a => .ok a
  | .error f => .error [.bad key f]

/-- A field that must be there. -/
def required {α : Type} (key : String) (index : Nat) (read : Json → Result α) : Reading α where
  run slots := match slots.find? key index with
    | some j => given key read j
    | none => .error [.absent key index]

/-- A field that takes a default when it is not there. -/
def defaulted {α : Type} (key : String) (index : Nat) (read : Json → Result α) (default : α) : Reading α where
  run slots := match slots.find? key index with
    | some j => given key read j
    | none => .ok default

/-- Null is nothing. -/
def nullable {α : Type} (read : Json → Result α) : Json → Result (Option α)
  | .null => .ok none
  | j => (read j).map some

/-- A field that may be null, or not there in either form. -/
def optional {α : Type} (key : String) (index : Nat) (read : Json → Result α) : Reading (Option α) :=
  defaulted key index (nullable read) none

/-- A field that may be null, and may be left out of an object but not of an array. -/
def optionalNamed {α : Type} (key : String) (index : Nat) (read : Json → Result α) : Reading (Option α) where
  run slots := match slots.find? key index with
    | some j => given key (nullable read) j
    | none => if slots.isNamed then .ok none else .error [.absent key index]

/-- The bad field with the least key. -/
def leastBad : List Blame → Option (String × Fault)
  | [] => none
  | .absent _ _ :: rest => leastBad rest
  | .bad key fault :: rest => match leastBad rest with
    | some (k, f) => if k < key then some (k, f) else some (key, fault)
    | none => some (key, fault)

def firstAbsent : List Blame → Option String
  | [] => none
  | .absent key _ :: _ => some key
  | .bad _ _ :: rest => firstAbsent rest

/-- The one fault reported for an object. -/
def namedFault (blames : List Blame) : Fault :=
  match leastBad blames, firstAbsent blames with
  | some (_, f), _ => f
  | none, some key => .missingField key
  | none, none => .missingField ""

/-- The one fault reported for an array. -/
def positionalFault (whole : Expected) : List Blame → Fault
  | .bad _ fault :: _ => fault
  | .absent _ index :: _ => .wrongLength index whole
  | [] => .wrongLength 0 whole

/-- Runs a description of fields on their values. -/
def fields {α : Type} (whole : Expected) (size : Nat) (setting : Setting) (reading : Reading α) (slots : Slots) :
    Result α :=
  match slots, reading.run slots with
  | .named _, .ok a => .ok a
  | .named _, .error blames => .error (namedFault blames)
  | .positional items, .ok a =>
    if items.length ≤ size then .ok a
    else .error (.wrongLength items.length (if setting = .plain then .fewerItems else .items size))
  | .positional _, .error blames => .error (positionalFault whole blames)

/-- A record of the given name and number of fields. -/
def record {α : Type} (name : String) (size : Nat) (setting : Setting) (reading : Reading α) : Json → Result α
  | .obj members => fields (.fieldsOf name size) size setting reading (.named members)
  | .arr items => fields (.fieldsOf name size) size setting reading (.positional items)
  | j => wrongKind j (.record name)

/-- A name out of a fixed choice. An object whose one key is the name, with null, stands for it too. -/
def choice {α : Type} (known : List (String × α)) (j : Json) : Result α :=
  let named (s : String) : Result α := match known.lookup s with
    | some a => .ok a
    | none => .error (.unknownVariant s (known.map (·.1)))
  match j with
  | .str s => named s
  | .obj [(s, .null)] => named s
  | .obj [(s, v)] => (named s).bind (fun _ => wrongKind v .nothing)
  | .obj _ => .error (.outOfRange .map .singleKey)
  | j => wrongKind j .variant

end Colloquy.Decode
