import Colloquy.Decimal.Reader

/-! Numerals as people write them: a sign, digits with or without a point, an exponent, and the words
for infinity and for no number. -/

namespace Colloquy.Decimal

def infinity : Float := Float.ofBits 0x7FF0000000000000

def notANumber : Float := Float.ofBits 0x7FF8000000000000

/-- The words that stand for values, in small letters. -/
def word? (s : List Char) : Option Float :=
  if s = "inf".toList || s = "infinity".toList then some infinity
  else if s = "nan".toList then some notANumber
  else none

def digitsValue (ds : List Char) : Nat := ds.foldl (fun n d => 10 * n + (d.toNat - 48)) 0

/-- A signed row of digits. -/
def exponent? (s : List Char) : Option Int :=
  let (negative, ds) := match s with
    | '-' :: ds => (true, ds)
    | '+' :: ds => (false, ds)
    | ds => (false, ds)
  if ds.isEmpty || !ds.all Char.isDigit then none
  else some (if negative then -(digitsValue ds : Int) else digitsValue ds)

/-- Digits with a point among them or not, and an exponent or none. -/
def unsigned? (s : List Char) : Option Digits := do
  let whole := s.takeWhile Char.isDigit
  let rest := s.drop whole.length
  let (places, rest) := match rest with
    | '.' :: more => (more.takeWhile Char.isDigit, more.dropWhile Char.isDigit)
    | _ => ([], rest)
  guard (!(whole ++ places).isEmpty)
  let exp ← match rest with
    | [] => some 0
    | e :: more => if e = 'e' || e = 'E' then exponent? more else none
  some ⟨digitsValue (whole ++ places), exp - places.length⟩

def magnitude? (s : List Char) : Option Float := (word? (s.map Char.toLower)).or ((unsigned? s).map Digits.toFloat)

/-- The double that a numeral names. -/
def numeral? (s : String) : Option Float :=
  match s.toList with
  | '-' :: rest => (magnitude? rest).map (fun x => -x)
  | '+' :: rest => magnitude? rest
  | rest => magnitude? rest

end Colloquy.Decimal
