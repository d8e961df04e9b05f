import Colloquy.Decimal.Layout

/-! A fixed number of places. The exact binary value is rounded once, and a tie goes to the even
neighbour. -/

namespace Colloquy.Decimal

/-- The integer nearest to `num / den`, the even one of two. -/
def roundHalfEven (num den : Nat) : Nat :=
  let q := num / den
  match compare (2 * (num % den)) den with
  | .lt => q
  | .gt => q + 1
  | .eq => if q % 2 == 0 then q else q + 1

/-- The magnitude in units of `10 ^ (-places)`. -/
def Binary.units (x : Binary) (places : Nat) : Nat :=
  roundHalfEven (x.m * Nat.pow 2 x.q.toNat * Nat.pow 10 places) (Nat.pow 2 (-x.q).toNat)

/-- Whole and fractional digits of a number of units of `10 ^ (-places)`. -/
def splitUnits (places units : Nat) : List Char × List Char :=
  let frac := natText (units % Nat.pow 10 places)
  (natText (units / Nat.pow 10 places), List.replicate (places - frac.length) '0' ++ frac)

/-- The magnitude of a finite double with a fixed number of places. -/
def fixedText (places : Nat) (x : Float) : List Char :=
  let (whole, frac) := splitUnits places ((Binary.ofFloat x).units places)
  if places == 0 then whole else whole ++ '.' :: frac

end Colloquy.Decimal
