import Colloquy.Decimal.Layout

/-! Dates and times: what they are, how they are read, and the one form in which they are written,
whatever form they were read from. -/

namespace Colloquy.Toml

structure Date where
  year : Nat
  month : Nat
  day : Nat
deriving DecidableEq, Repr

structure TimeOfDay where
  hour : Nat
  minute : Nat
  second : Nat
  /-- The digits of the fraction of a second, as far as a nanosecond. -/
  fraction : List Char
deriving DecidableEq, Repr

/-- The distance from universal time. -/
inductive Offset where
  | universal
  | minutes (n : Int)
deriving DecidableEq, Repr

inductive Moment where
  | date (d : Date)
  | time (t : TimeOfDay)
  | both (d : Date) (t : TimeOfDay) (offset : Option Offset)
deriving DecidableEq, Repr

/-! ### Reading -/

/-- Takes something from the front of a text. -/
abbrev Scan (α : Type) := List Char → Option (α × List Char)

def decimalValue (ds : List Char) : Nat := ds.foldl (fun n d => 10 * n + (d.toNat - 48)) 0

/-- A number of exactly so many digits. -/
def fixedNumber? (digits : Nat) : Scan Nat := fun s =>
  let ds := s.take digits
  if ds.length = digits && ds.all Char.isDigit then some (decimalValue ds, s.drop digits) else none

/-- A number of two digits behind a mark. -/
def markedPair? (mark : Char) : Scan Nat
  | c :: rest => if c = mark then fixedNumber? 2 rest else none
  | [] => none

def daysIn (year month : Nat) : Nat :=
  if month = 2 then (if year % 4 = 0 && (year % 100 != 0 || year % 400 = 0) then 29 else 28)
  else if [4, 6, 9, 11].contains month then 30
  else 31

/-- Four digits, two and two with hyphens between. -/
def date? : Scan Date := fun s => do
  let (year, s) ← fixedNumber? 4 s
  let (month, s) ← markedPair? '-' s
  let (day, s) ← markedPair? '-' s
  if 1 ≤ month && month ≤ 12 && 1 ≤ day && day ≤ daysIn year month then some (⟨year, month, day⟩, s) else none

/-- A fraction of a second, if there is one. -/
def fraction? : Scan (List Char)
  | '.' :: rest =>
    let ds := rest.takeWhile Char.isDigit
    if ds.isEmpty then none else some (ds.take 9, rest.drop ds.length)
  | s => some ([], s)

/-- Hours and minutes, and seconds with their fraction if given. -/
def timeOfDay? : Scan TimeOfDay := fun s => do
  let (hour, s) ← fixedNumber? 2 s
  let (minute, s) ← markedPair? ':' s
  guard (hour < 24 && minute < 60)
  match s with
  | ':' :: rest => do
    let (second, s) ← fixedNumber? 2 rest
    guard (second ≤ 60)
    let (fraction, s) ← fraction? s
    some (⟨hour, minute, second, fraction⟩, s)
  | _ => some (⟨hour, minute, 0, []⟩, s)

/-- Hours and minutes away from universal time. -/
def distance? (s : List Char) : Option Nat := do
  let (hour, s) ← fixedNumber? 2 s
  let (minute, s) ← markedPair? ':' s
  if hour < 24 && minute < 60 && s.isEmpty then some (60 * hour + minute) else none

/-- An offset that goes on to the end of the text, or nothing. -/
def offset? (s : List Char) : Option (Option Offset) :=
  match s with
  | [] => some none
  | ['Z'] | ['z'] => some (some .universal)
  | '+' :: rest => (distance? rest).map (fun n => some (.minutes n))
  | '-' :: rest => (distance? rest).map (fun n => some (.minutes (-(n : Int))))
  | _ => none

/-- A date, a time, or a date and a time with or without an offset. -/
def Moment.ofText? (s : List Char) : Option Moment :=
  match date? s with
  | some (d, []) => some (.date d)
  | some (d, c :: rest) =>
    if c = 'T' || c = 't' || c = ' ' then do
      let (t, s) ← timeOfDay? rest
      (offset? s).map (.both d t)
    else none
  | none => match timeOfDay? s with
    | some (t, []) => some (.time t)
    | _ => none

/-! ### Writing -/

/-- A number with zeros in front up to a width. -/
def padded (width n : Nat) : List Char :=
  let ds := Decimal.natText n
  List.replicate (width - ds.length) '0' ++ ds

def Date.text (d : Date) : List Char := padded 4 d.year ++ '-' :: padded 2 d.month ++ '-' :: padded 2 d.day

/-- The digits of a fraction behind a point, without the zeros at their end. -/
def fractionText (ds : List Char) : List Char :=
  match (ds.reverse.dropWhile (· == '0')).reverse with
  | [] => []
  | ds => '.' :: ds

def TimeOfDay.text (t : TimeOfDay) : List Char :=
  padded 2 t.hour ++ ':' :: padded 2 t.minute ++ ':' :: padded 2 t.second ++ fractionText t.fraction

def Offset.text : Offset → List Char
  | .universal => ['Z']
  | .minutes n => (if n < 0 then '-' else '+') :: padded 2 (n.natAbs / 60) ++ ':' :: padded 2 (n.natAbs % 60)

def Moment.text : Moment → List Char
  | .date d => d.text
  | .time t => t.text
  | .both d t offset => d.text ++ 'T' :: t.text ++ offset.elim [] Offset.text

end Colloquy.Toml
