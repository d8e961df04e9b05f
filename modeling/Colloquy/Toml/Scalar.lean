import Colloquy.Decimal.Numeral
import Colloquy.Toml.Basic

/-! Words of a TOML document that stand for values: truth values, integers, floats, dates and times. -/

namespace Colloquy.Toml

/-- Digits with single underscores between them, without the underscores. -/
def underscored? (isDigit : Char → Bool) : List Char → Option (List Char)
  | [] => none
  | [d] => if isDigit d then some [d] else none
  | d :: '_' :: rest => if isDigit d then (underscored? isDigit rest).map (d :: ·) else none
  | d :: rest => if isDigit d then (underscored? isDigit rest).map (d :: ·) else none

def digitValue (c : Char) : Nat :=
  if c.isDigit then c.toNat - 48 else if 'a' ≤ c then c.toNat - 87 else c.toNat - 55

def valueIn (base : Nat) (ds : List Char) : Nat := ds.foldl (fun n d => base * n + digitValue d) 0

def isHexDigit (c : Char) : Bool := c.isDigit || ('a' ≤ c && c ≤ 'f') || ('A' ≤ c && c ≤ 'F')

/-- A sign in front, and what follows it. -/
def signed (s : List Char) : Bool × List Char :=
  match s with
  | '-' :: rest => (true, rest)
  | '+' :: rest => (false, rest)
  | rest => (false, rest)

/-- Decimal digits without needless zeros in front. -/
def plainDigits? (s : List Char) : Option (List Char) :=
  match underscored? Char.isDigit s with
  | some ('0' :: _ :: _) => none
  | ds => ds

def integer? (s : List Char) : Option Int :=
  match s with
  | '0' :: 'x' :: ds => (underscored? isHexDigit ds).map (fun ds => (valueIn 16 ds : Int))
  | '0' :: 'o' :: ds => (underscored? (fun c => '0' ≤ c && c ≤ '7') ds).map (fun ds => (valueIn 8 ds : Int))
  | '0' :: 'b' :: ds => (underscored? (fun c => c == '0' || c == '1') ds).map (fun ds => (valueIn 2 ds : Int))
  | _ =>
    let (negative, ds) := signed s
    (plainDigits? ds).map (fun ds => if negative then -(valueIn 10 ds : Int) else valueIn 10 ds)

/-- An exponent behind its mark. -/
def exponent? (s : List Char) : Option Int :=
  match s with
  | [] => some 0
  | e :: rest =>
    if e = 'e' || e = 'E' then
      let (negative, ds) := signed rest
      (underscored? Char.isDigit ds).map (fun ds => if negative then -(valueIn 10 ds : Int) else valueIn 10 ds)
    else none

/-- Digits with a point or an exponent. -/
def magnitude? (s : List Char) : Option Float := do
  let whole := s.takeWhile (fun c => c.isDigit || c == '_')
  let rest := s.drop whole.length
  let (places, rest) ← match rest with
    | '.' :: more =>
      let places := more.takeWhile (fun c => c.isDigit || c == '_')
      (underscored? Char.isDigit places).map (·, more.drop places.length)
    | _ => if rest.isEmpty then none else some ([], rest)
  let exp ← exponent? rest
  let whole ← plainDigits? whole
  some (Decimal.Digits.toFloat ⟨valueIn 10 (whole ++ places), exp - places.length⟩)

/-- A float in digits, or one of two words. Digits do not stand for infinity. -/
def float? (s : List Char) : Option Toml :=
  let (negative, body) := signed s
  let withSign (x : Float) : Toml := .float (if negative then -x else x)
  if body = ['i', 'n', 'f'] then some (withSign Decimal.infinity)
  else if body = ['n', 'a', 'n'] then some (withSign Decimal.notANumber)
  else (magnitude? body).map (fun x => if Decimal.isFinite x then withSign x else .beyond)

/-- The integers that are held: 128 bits, signed or unsigned. -/
def isHeld (n : Int) : Bool := -0x80000000000000000000000000000000 ≤ n && n ≤ 0xFFFFFFFFFFFFFFFFFFFFFFFFFFFFFFFF

/-- The value of a word. -/
def scalar? (word : List Char) : Option Toml :=
  if word = "true".toList then some (.boolean true)
  else if word = "false".toList then some (.boolean false)
  else match integer? word with
    | some n => some (if isHeld n then .integer n else .beyond)
    | none => match float? word with
      | some x => some x
      | none => (Moment.ofText? word).map .moment

/-- The characters of words. -/
def isWordChar (c : Char) : Bool := c.isAlphanum || ['_', '+', '-', '.', ':'].contains c

/-- Takes the word in front. A date may be followed by a space and a time. -/
def takeWord (s : List Char) : List Char × List Char :=
  let word := s.takeWhile isWordChar
  let rest := s.drop word.length
  match rest with
  | ' ' :: d :: _ =>
    if d.isDigit && (date? word).any (·.2.isEmpty) then
      let time := (rest.drop 1).takeWhile isWordChar
      (word ++ ' ' :: time, rest.drop (time.length + 1))
    else (word, rest)
  | _ => (word, rest)

end Colloquy.Toml
