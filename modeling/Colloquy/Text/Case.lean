import Colloquy.Text.Cased
import Colloquy.Text.LetterShifts

/-! Text in lower and in upper case. A letter may become several; a capital sigma that ends a word
becomes the final form of the small one. -/

namespace Colloquy.Text

def Shift.applies (r : Shift) (n : Nat) : Bool := r.first ≤ n && n ≤ r.last && (n - r.first) % r.step == 0

/-- Moves a character as the first run says that it belongs to. -/
def shifted (runs : List Shift) (c : Char) : Char :=
  match runs.find? (fun r => r.applies c.toNat) with
  | some r => Char.ofNat ((c.toNat : Int) + r.offset).toNat
  | none => c

def isCased (c : Char) : Bool := casedRanges.holds c.toNat

def isPassedOver (c : Char) : Bool := passedOverRanges.holds c.toNat

/-- The first character that is not passed over is a letter with a case. -/
def meetsCased (cs : List Char) : Bool := ((cs.dropWhile isPassedOver).head?.map isCased).getD false

def capitalSigma : Char := 'Σ'

/-- One character in lower case, between the text before it, latest first, and the text behind it. -/
def lowerChar (before : List Char) (c : Char) (behind : List Char) : List Char :=
  if c = capitalSigma then [if meetsCased before && !meetsCased behind then 'ς' else 'σ']
  else if c = 'İ' then ['i', '\u0307']
  else [shifted lowerShifts c]

def lowerChars : List Char → List Char → List Char
  | _, [] => []
  | before, c :: behind => lowerChar before c behind ++ lowerChars (c :: before) behind

def lower (s : String) : String := String.ofList (lowerChars [] s.toList)

/-- One character in upper case. -/
def upperChar (c : Char) : List Char :=
  match longUppers.lookup c.toNat with
  | some codes => codes.map Char.ofNat
  | none => [shifted upperShifts c]

def upper (s : String) : String := String.ofList (s.toList.flatMap upperChar)

end Colloquy.Text
