import Colloquy.Json.Basic
import Colloquy.Toml.Moment

/-! TOML documents as trees, and the rules by which statements add to them. A table remembers how it
came about, since that decides what may still be added to it. -/

namespace Colloquy

/-- How a table came about. -/
inductive TableForm where
  /-- Named by a header of its own. -/
  | header
  /-- On the way to a table that has a header. -/
  | implied
  /-- On the way of a dotted key. -/
  | dotted
  /-- Written in braces, and complete. -/
  | inline
deriving DecidableEq, Repr

/-- A table that no statement has named outright. -/
def TableForm.isImplicit : TableForm → Bool
  | .implied | .dotted => true
  | .header | .inline => false

inductive Toml where
  | text (s : String)
  | integer (n : Int)
  | float (x : Float)
  /-- A number beyond all that are held. It does no harm where nobody looks. -/
  | beyond
  | boolean (b : Bool)
  | moment (m : Toml.Moment)
  | array (items : List Toml)
  /-- Tables under one repeated header. -/
  | tables (items : List Toml)
  | table (form : TableForm) (entries : List (String × Toml))

namespace Toml

abbrev Entries := List (String × Toml)

/-- A table under construction. -/
structure Partial where
  form : TableForm
  entries : Entries

def Partial.toToml (t : Partial) : Toml := .table t.form t.entries

/-- Puts a value in the place of a key's. -/
def replaceEntry (key : String) (value : Toml) : Entries → Entries
  | [] => []
  | (k, v) :: rest => if k = key then (k, value) :: rest else (k, v) :: replaceEntry key value rest

/-- Changes the table at the end of a path, and makes those on the way that are not there. A path of a
dotted key does not pass a table that was named outright. -/
def alterAt (isDotted : Bool) (change : Partial → Option Partial) : List String → Partial → Option Partial
  | [], t => change t
  | key :: path, t => match t.entries.lookup key with
    | none => do
      let sub ← alterAt isDotted change path ⟨if isDotted then .dotted else .implied, []⟩
      some { t with entries := t.entries ++ [(key, sub.toToml)] }
    | some (.table form entries) =>
      if form = .inline || (isDotted && !form.isImplicit) then none
      else do
        let sub ← alterAt isDotted change path ⟨form, entries⟩
        some { t with entries := replaceEntry key sub.toToml t.entries }
    | some (.tables items) => match items.getLast? with
      | some (.table form entries) => do
        let sub ← alterAt isDotted change path ⟨form, entries⟩
        some { t with entries := replaceEntry key (.tables (items.dropLast ++ [sub.toToml])) t.entries }
      | _ => none
    | some _ => none

/-- Adds an entry to the table that a dotted key leads to from it. A key without dots adds to the table
itself, one with dots only to a table of dotted keys. -/
def Partial.define (t : Partial) (path : List String) (key : String) (value : Toml) : Option Partial :=
  let add (u : Partial) : Option Partial :=
    if (u.form = .dotted) = path.isEmpty || (u.entries.lookup key).isSome then none
    else some { u with entries := u.entries ++ [(key, value)] }
  alterAt true add path t

/-- Names a table by a header. -/
def Partial.nameTable (t : Partial) (path : List String) (key : String) : Option Partial :=
  let name (u : Partial) : Option Partial :=
    match u.entries.lookup key with
    | none => some { u with entries := u.entries ++ [(key, .table .header [])] }
    | some (.table .implied entries) => some { u with entries := replaceEntry key (.table .header entries) u.entries }
    | some _ => none
  alterAt false name path t

/-- Adds a table to those of a repeated header. -/
def Partial.addTable (t : Partial) (path : List String) (key : String) : Option Partial :=
  let add (u : Partial) : Option Partial :=
    match u.entries.lookup key with
    | none => some { u with entries := u.entries ++ [(key, .tables [.table .header []])] }
    | some (.tables items) =>
      some { u with entries := replaceEntry key (.tables (items ++ [.table .header []])) u.entries }
    | some _ => none
  alterAt false add path t

/-- The key under which a moment stands where an object is wanted. -/
def momentKey : String := "$__toml_private_datetime"

mutual

/-- The same data as JSON, if no number in it is beyond all that are held. -/
def toJson? : Toml → Option Json
  | .text s => some (.str s)
  | .integer n => some (.int n)
  | .float x => some (.num (.float x))
  | .beyond => none
  | .boolean b => some (.bool b)
  | .moment m => some (.obj [(momentKey, .str (String.ofList m.text))])
  | .array items => (itemsToJson? items).map .arr
  | .tables items => (itemsToJson? items).map .arr
  | .table _ entries => (entriesToJson? entries).map .ofMembers

def itemsToJson? : List Toml → Option (List Json)
  | [] => some []
  | v :: vs => do return (← v.toJson?) :: (← itemsToJson? vs)

def entriesToJson? : List (String × Toml) → Option Json.Members
  | [] => some []
  | (k, v) :: es => do return (k, ← v.toJson?) :: (← entriesToJson? es)

end

end Toml

end Colloquy
