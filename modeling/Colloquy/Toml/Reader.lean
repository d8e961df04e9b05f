import Colloquy.Toml.Quoted

/-! Reading TOML documents, statement by statement. Inline tables may go over several lines, hold
comments and end in a comma. What is wrong with a document that is none is not told. -/

namespace Colloquy.Toml

/-! ### Keys -/

def isBareKeyChar (c : Char) : Bool := c.isAlphanum || c == '_' || c == '-'

/-- One part of a key, quoted on one line or bare. -/
def keyPart? : Scan String
  | '"' :: rest => basic (rest.length + 1) [] rest
  | '\'' :: rest => literal rest
  | s =>
    let bare := s.takeWhile isBareKeyChar
    if bare.isEmpty then none else some (String.ofList bare, s.drop bare.length)

/-- Most levels that a value has around it, and most parts of a key. -/
def depthLimit : Nat := 80

/-- So many parts at most, with dots between them. Blanks may stand around the dots and behind the key. -/
def keyParts : Nat → Scan (List String)
  | 0, _ => none
  | limit + 1, s => do
    let (part, rest) ← keyPart? (s.dropWhile isGap)
    match rest.dropWhile isGap with
    | '.' :: more => do
      let (parts, rest) ← keyParts limit more
      some (part :: parts, rest)
    | rest => some ([part], rest)

/-- A key as the path to it and its last part. -/
def key? (s : List Char) : Option ((List String × String) × List Char) := do
  let (parts, rest) ← keyParts depthLimit s
  let last ← parts.getLast?
  some ((parts.dropLast, last), rest)

/-! ### Values -/

/-- A comment up to the end of its line, if there is one. -/
def afterComment? (s : List Char) : Option (List Char) :=
  match s with
  | '#' :: rest =>
    let body := rest.takeWhile (fun c => c != '\n' && c != '\r')
    if body.any isBarred then none else some (rest.drop body.length)
  | _ => some s

/-- Blanks, comments and line ends are passed over. -/
def skipSpace : Nat → List Char → Option (List Char)
  | 0, s => some s
  | fuel + 1, s => do
    let s ← afterComment? (s.dropWhile isGap)
    match afterLineEnd? s with
    | some rest => skipSpace fuel rest
    | none => some s

def space (s : List Char) : Option (List Char) := skipSpace s.length s

/-- The rest of an array; the items so far are latest first. -/
def arrayItems (value : Scan Toml) : Nat → List Toml → Scan Toml
  | 0, _, _ => none
  | fuel + 1, items, s => do
    match ← space s with
    | ']' :: rest => some (.array items.reverse, rest)
    | s => do
      let (item, rest) ← value s
      match ← space rest with
      | ',' :: rest => arrayItems value fuel (item :: items) rest
      | ']' :: rest => some (.array (item :: items).reverse, rest)
      | _ => none

/-- What stands between the parts of an entry is passed over. -/
abbrev Skip := List Char → Option (List Char)

def gaps : Skip := fun s => some (s.dropWhile isGap)

/-- A key, the sign and a value. -/
def assignment? (skip : Skip) (value : Scan Toml) (s : List Char) : Option ((List String × String × Toml) × List Char) := do
  let ((path, last), rest) ← key? s
  match ← skip rest with
  | '=' :: rest => do
    let (v, rest) ← value (← skip rest)
    some ((path, last, v), rest)
  | _ => none

/-- The rest of an inline table. -/
def inlineEntries (value : Scan Toml) : Nat → Partial → Scan Toml
  | 0, _, _ => none
  | fuel + 1, t, s => do
    match ← space s with
    | '}' :: rest => some (.table .inline t.entries, rest)
    | s => do
      let ((path, last, v), rest) ← assignment? space value s
      let t ← t.define path last v
      match ← space rest with
      | ',' :: rest => inlineEntries value fuel t rest
      | '}' :: rest => some (.table .inline t.entries, rest)
      | _ => none

/-- A value that holds no others. -/
def plainValue? : Scan Toml
  | '"' :: s => (quotedText? ('"' :: s)).map (fun r => (.text r.1, r.2))
  | '\'' :: s => (quotedText? ('\'' :: s)).map (fun r => (.text r.1, r.2))
  | s =>
    let (word, rest) := takeWord s
    (scalar? word).map (·, rest)

/-- A value in which at most so many others are open at a time. -/
def value? : Nat → Scan Toml
  | 0, s => plainValue? s
  | depth + 1, s => match s with
    | '[' :: rest => arrayItems (value? depth) (s.length + 1) [] rest
    | '{' :: rest => inlineEntries (value? depth) (s.length + 1) ⟨.header, []⟩ rest
    | s => plainValue? s

/-! ### Statements -/

/-- A document under construction: all of it, and the path to the table that entries go to. -/
structure Draft where
  root : Partial := ⟨.header, []⟩
  place : List String := []

/-- A header behind its brackets. -/
def Draft.enter (d : Draft) (repeated : Bool) (path : List String) (last : String) : Option Draft := do
  let root ← if repeated then d.root.addTable path last else d.root.nameTable path last
  some ⟨root, path ++ [last]⟩

def Draft.assign (d : Draft) (path : List String) (last : String) (v : Toml) : Option Draft := do
  let root ← alterAt false (fun t => t.define path last v) d.place d.root
  some { d with root }

/-- One statement, up to the blanks behind it. -/
def statement? (d : Draft) : Scan Draft
  | '[' :: '[' :: s => do
    let ((path, last), rest) ← key? s
    match rest with
    | ']' :: ']' :: rest => (d.enter true path last).map (·, rest)
    | _ => none
  | '[' :: s => do
    let ((path, last), rest) ← key? s
    match rest with
    | ']' :: rest => (d.enter false path last).map (·, rest)
    | _ => none
  | s => do
    let ((path, last, v), rest) ← assignment? gaps (value? depthLimit) s
    (d.assign path last v).map (·, rest)

/-- The end of a statement's line, or of the document. -/
def afterStatement? (s : List Char) : Option (List Char) := do
  match ← afterComment? (s.dropWhile isGap) with
  | [] => some []
  | s => afterLineEnd? s

def statements : Nat → Draft → List Char → Option Draft
  | 0, _, _ => none
  | fuel + 1, d, s => do
    match ← space s with
    | [] => some d
    | s => do
      let (d, rest) ← statement? d s
      statements fuel d (← afterStatement? rest)

/-- A mark of the byte order at the front is passed over. -/
def withoutMark (s : List Char) : List Char :=
  match s with
  | '\uFEFF' :: rest => rest
  | s => s

/-- The table that a document describes. -/
def read? (s : String) : Option Toml :=
  let cs := withoutMark s.toList
  (statements (cs.length + 1) {} cs).map (fun d => .table .header d.root.entries)

end Colloquy.Toml
