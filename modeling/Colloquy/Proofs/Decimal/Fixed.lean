import Colloquy.Decimal.Fixed
import Colloquy.Proofs.Decimal.Magnitude

/-! A fixed number of places. What is written is the number of units that is next to the value, the even one of two that
are equally near (`nearestEven_units`), with two places as in `fixedText_two`. -/

namespace Colloquy.Decimal

/-! ### Rounding -/

/-- The natural number next to a value, and of two that are equally near the even one. -/
structure NearestEven (v : ℚ) (n : Nat) : Prop where
  near : |v - n| ≤ 1 / 2
  even : |v - n| = 1 / 2 → Even n

/-- Without fractions: the distance is counted in parts, `den` of which make one. -/
theorem nearestEven_div_iff {num den n : Nat} (hden : 0 < den) : NearestEven (num / den) n ↔
    2 * ((num : Int) - n * den).natAbs ≤ den ∧ (2 * ((num : Int) - n * den).natAbs = den → Even n) := by
  have hpos : (0 : ℚ) < den := by exact_mod_cast hden
  have hdist : |(num : ℚ) / den - n| = (((num : Int) - n * den).natAbs : ℚ) / den := by
    rw [Nat.cast_natAbs, Int.cast_abs, div_sub' hpos.ne', abs_div, abs_of_pos hpos, mul_comm (den : ℚ)]
    push_cast
    rfl
  have hhalf : (1 : ℚ) / 2 = den / 2 / den := by field_simp
  have hnear : |(num : ℚ) / den - n| ≤ 1 / 2 ↔ 2 * ((num : Int) - n * den).natAbs ≤ den := by
    rw [hdist, hhalf, div_le_div_iff_of_pos_right hpos, le_div_iff₀ two_pos, mul_comm]
    exact_mod_cast Iff.rfl
  have htie : |(num : ℚ) / den - n| = 1 / 2 ↔ 2 * ((num : Int) - n * den).natAbs = den := by
    rw [hdist, hhalf, div_left_inj' hpos.ne', eq_div_iff two_ne_zero, mul_comm]
    exact_mod_cast Iff.rfl
  rw [← hnear, ← htie]
  exact ⟨fun h => ⟨h.near, h.even⟩, fun h => ⟨h.1, h.2⟩⟩

theorem nearestEven_roundHalfEven (num : Nat) {den : Nat} (hden : 0 < den) :
    NearestEven (num / den) (roundHalfEven num den) := by
  have hrest : num % den < den := Nat.mod_lt num hden
  have hsum : num = num / den * den + num % den := (Nat.div_add_mod' num den).symm
  rw [nearestEven_div_iff hden, roundHalfEven]
  generalize num / den = q at *
  generalize num % den = r at *
  have hbelow : (num : Int) - q * den = r := by omega
  have habove : (num : Int) - (q + 1 : Nat) * den = r - den := by
    push_cast
    rw [add_mul]
    omega
  split
  · next hlt =>
      rw [compare_lt_iff_lt] at hlt
      rw [hbelow]
      omega
  · next hgt =>
      rw [compare_gt_iff_gt] at hgt
      rw [habove]
      omega
  · next heq =>
      rw [compare_eq_iff_eq] at heq
      split
      · next heven =>
          rw [hbelow]
          exact ⟨by omega, fun _ => Nat.even_iff.mpr (beq_iff_eq.mp heven)⟩
      · next hodd =>
          rw [beq_iff_eq] at hodd
          rw [habove]
          exact ⟨by omega, fun _ => Nat.even_iff.mpr (by omega)⟩

theorem nearestEven_units (x : Binary) (places : Nat) : NearestEven (x.value * 10 ^ places) (x.units places) := by
  have hvalue : x.value * 10 ^ places =
      ((x.m * 2 ^ x.q.toNat * 10 ^ places : Nat) : ℚ) / ((2 ^ (-x.q).toNat : Nat) : ℚ) := by
    rw [x.value_eq_div]
    push_cast
    ring
  rw [hvalue]
  exact nearestEven_roundHalfEven _ (by positivity)

/-! ### Two places -/

/-- A number of hundredths, written out. -/
def hundredthsText (n : Nat) : List Char :=
  Nat.toDigits 10 (n / 100) ++ ['.', (n / 10 % 10).digitChar, (n % 10).digitChar]

theorem splitUnits_two (n : Nat) :
    splitUnits 2 n = (Nat.toDigits 10 (n / 100), [(n / 10 % 10).digitChar, (n % 10).digitChar]) := by
  have hunits : splitUnits 2 n = (Nat.toDigits 10 (n / 100),
      List.replicate (2 - (Nat.toDigits 10 (n % 100)).length) '0' ++ Nat.toDigits 10 (n % 100)) := rfl
  have hlast : n % 100 % 10 = n % 10 := by omega
  have hfirst : n % 100 / 10 = n / 10 % 10 := by omega
  rw [hunits]
  rcases Nat.lt_or_ge (n % 100) 10 with hsmall | hlarge
  · have hzero : n / 10 % 10 = 0 := by omega
    rw [Nat.toDigits_of_lt_base hsmall, hzero, ← hlast, Nat.mod_eq_of_lt hsmall]
    rfl
  · have htens : Nat.toDigits 10 (n / 10 % 10) = [(n / 10 % 10).digitChar] := Nat.toDigits_of_lt_base (by omega)
    rw [Nat.toDigits_of_base_le (by decide) hlarge, hlast, hfirst, htens]
    rfl

theorem fixedText_two (x : Float) : fixedText 2 x = hundredthsText ((Binary.ofFloat x).units 2) := by
  rw [fixedText, splitUnits_two]
  rfl

end Colloquy.Decimal
