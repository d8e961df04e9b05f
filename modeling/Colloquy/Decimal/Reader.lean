import Colloquy.Decimal.Binary

/-! Reading decimals. -/

namespace Colloquy.Decimal

/-- The double nearest to `digits * 10 ^ exp`. Exponents so far out that the value is certainly
zero or infinite are settled without forming the power of ten. -/
def Digits.toFloat (d : Digits) : Float :=
  let lead : Int := (Nat.log2 d.digits : Int) * 3 / 10 + d.exp
  if d.digits == 0 || lead < -400 then 0.0
  else if lead > 400 then Float.ofBits 0x7FF0000000000000
  else Float.ofScientific d.digits (d.exp < 0) d.exp.natAbs

/-- The double nearest to an integer. -/
def intToFloat (n : Int) : Float :=
  let magnitude := Float.ofScientific n.natAbs false 0
  if n < 0 then -magnitude else magnitude

end Colloquy.Decimal
