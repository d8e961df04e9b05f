import Colloquy.Decimal.Reader

/-! Powers of ten put to a whole number in floating-point steps, each of them rounded. The result is
not always the double nearest to the exact value. -/

namespace Colloquy.Decimal

/-- The largest power of ten among the doubles. -/
def topExponent : Nat := 308

def powerOfTen (exp : Nat) : Float := Digits.toFloat ⟨1, exp⟩

/-- Divides by a power of ten, at most by `10 ^ 308` at a time. -/
def scaledDown (x : Float) (exp : Nat) : Float :=
  if exp ≤ topExponent then x / powerOfTen exp
  else if x == 0.0 then x
  else scaledDown (x / powerOfTen topExponent) (exp - topExponent)
termination_by exp
decreasing_by simp [topExponent] at *; omega

/-- Multiplies by a power of ten, unless the product is infinite. -/
def scaledUp? (x : Float) (exp : Nat) : Option Float :=
  if exp ≤ topExponent then
    let y := x * powerOfTen exp
    if isFinite y then some y else none
  else if x == 0.0 then some x
  else none

/-- A whole number times a power of ten. -/
def scaled? (n : Nat) : Int → Option Float
  | .ofNat exp => scaledUp? (Digits.toFloat ⟨n, 0⟩) exp
  | .negSucc exp => some (scaledDown (Digits.toFloat ⟨n, 0⟩) (exp + 1))

end Colloquy.Decimal
