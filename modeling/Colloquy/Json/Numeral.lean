import Colloquy.Decimal.Scaled
import Colloquy.Json.Basic

/-! Numbers in a JSON text, read one character at a time. A double is read fast rather than exactly: of
its digits those in front count that fit a word, and the power of ten is put to them in rounded steps. -/

namespace Colloquy.Json

/-- Where a number stands: after its minus sign, in a lone zero, in its whole digits, after the
point, in the fraction, after the exponent mark, after the exponent's sign, in the exponent. -/
inductive NumberPlace where
  | sign | zero | whole | point | fraction | mark | exponentSign | exponent
deriving DecidableEq, Repr

/-- A number read so far: `significand * 10 ^ shift`, and then the exponent. -/
structure NumberSoFar where
  place : NumberPlace
  negative : Bool := false
  significand : Nat := 0
  /-- A digit of the whole part, or of the fraction once there is one, was left out. -/
  full : Bool := false
  shift : Int := 0
  exponentNegative : Bool := false
  exponent : Nat := 0
deriving DecidableEq, Repr

namespace NumberSoFar

/-- The significand goes up to the largest word. -/
def maxSignificand : Nat := 0xFFFFFFFFFFFFFFFF

/-- A larger exponent is not told from others of its kind. -/
def maxExponent : Nat := 0x7FFFFFFF

/-- The first character of a number. -/
def start? (c : Char) : Option NumberSoFar :=
  if c == '-' then some { place := .sign, negative := true }
  else if c == '0' then some { place := .zero }
  else if c.isDigit then some { place := .whole, significand := c.toNat - 48 }
  else none

/-- One more digit in front of the point. From the first that does not fit, they count as zeros. -/
def addWhole (n : NumberSoFar) (digit : Nat) : NumberSoFar :=
  let larger := n.significand * 10 + digit
  if n.full || maxSignificand < larger then { n with full := true, shift := n.shift + 1 }
  else { n with significand := larger }

/-- One more digit behind the point. From the first that does not fit, they do not count. -/
def addPlace (n : NumberSoFar) (digit : Nat) : NumberSoFar :=
  let larger := n.significand * 10 + digit
  if n.full || maxSignificand < larger then { n with full := true }
  else { n with significand := larger, shift := n.shift - 1 }

def addExponent (n : NumberSoFar) (digit : Nat) : NumberSoFar :=
  if maxExponent < n.exponent then n else { n with exponent := n.exponent * 10 + digit }

/-- The next character of a number; `none` if it does not belong to one. -/
def next? (n : NumberSoFar) (c : Char) : Option NumberSoFar :=
  let digit := c.toNat - 48
  let isMark := c == 'e' || c == 'E'
  let point := { n with place := .point, full := false }
  match n.place with
  | .sign => if c == '0' then some { n with place := .zero }
    else if c.isDigit then some { n.addWhole digit with place := .whole } else none
  | .zero => if c == '.' then some point else if isMark then some { n with place := .mark } else none
  | .whole => if c.isDigit then some (n.addWhole digit) else if c == '.' then some point
    else if isMark then some { n with place := .mark } else none
  | .point => if c.isDigit then some { n.addPlace digit with place := .fraction } else none
  | .fraction => if c.isDigit then some (n.addPlace digit) else if isMark then some { n with place := .mark } else none
  | .mark => if c == '+' then some { n with place := .exponentSign }
    else if c == '-' then some { n with place := .exponentSign, exponentNegative := true }
    else if c.isDigit then some { n with place := .exponent, exponent := digit } else none
  | .exponentSign => if c.isDigit then some { n with place := .exponent, exponent := digit } else none
  | .exponent => if c.isDigit then some (n.addExponent digit) else none

/-- The number may end here. -/
def isComplete (n : NumberSoFar) : Bool :=
  match n.place with
  | .zero | .whole | .fraction | .exponent => true
  | _ => false

/-- It is written as an integer whose digits all fit. -/
def isWhole (n : NumberSoFar) : Bool := (n.place == .zero || n.place == .whole) && !n.full

/-- The magnitude of a double. -/
def magnitude? (n : NumberSoFar) : Option Float :=
  if n.exponent ≤ maxExponent then
    Decimal.scaled? n.significand (if n.exponentNegative then n.shift - n.exponent else n.shift + n.exponent)
  else if n.significand == 0 || n.exponentNegative then some 0.0
  else none

/-- The value of a complete number: an integer if it is written as one and fits a word, with `-0`
a double; `none` if it lies beyond the doubles. -/
def value? (n : NumberSoFar) : Option Number :=
  let signed : Int := if n.negative then -(n.significand : Int) else n.significand
  if n.isWhole && Number.isWordSized signed && !(n.negative && n.significand == 0) then some (.int signed)
  else n.magnitude?.map (fun x => .float (if n.negative then -x else x))

end NumberSoFar

end Colloquy.Json
