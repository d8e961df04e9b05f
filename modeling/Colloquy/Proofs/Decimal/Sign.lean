import Colloquy.Proofs.Decimal.Parts

/-! The sign of a double, and whether it is finite. What the bits say about both agrees with what comparing the double
and taking its absolute value make of them (`isFinite_eq`, `lt_zero_iff`, `ofFloat_abs`). -/

namespace Colloquy.Decimal

open Float.Model Float.Model.UnpackedFloat

variable {x : Float} {s : Sign} {ex : BitVec 11} {ma : BitVec 52}

theorem unpack_abs (s : Sign) (ex : BitVec 11) (ma : BitVec 52) :
    (UnpackedFloat.unpack Format.binary64 (packComponents Format.binary64 s ex ma)).abs =
      UnpackedFloat.unpack Format.binary64 (packComponents Format.binary64 .positive ex ma) := by
  simp only [UnpackedFloat.unpack, unpackExponent_packComponents, unpackMantissa_packComponents,
    unpackSign_packComponents, Sign.ofBitVec_toBitVec]
  split_ifs <;> rfl

theorem isFinite_eq (x : Float) : isFinite x = x.isFinite := by
  obtain ⟨s, ex, ma, hx⟩ := exists_parts x
  rw [Bool.eq_iff_iff, hx.isFinite_iff, Float.isFinite, Float.Model.isFinite, hx.unpack]
  simp only [UnpackedFloat.unpack, unpackExponent_packComponents, unpackMantissa_packComponents]
  split_ifs <;> simp_all [UnpackedFloat.isFinite]

/-- A finite double is below zero if it has the sign for that and is not zero. -/
theorem lt_zero_iff (hx : isFinite x = true) : x < 0 ↔ isNegative x = true ∧ (Binary.ofFloat x).m ≠ 0 := by
  obtain ⟨s, ex, ma, hparts⟩ := exists_parts x
  have hfinite : ex ≠ -1#11 := hparts.isFinite_iff.mp hx
  have hcompare : x < 0 ↔ x.toModel.unpack.compare (.zero .positive) = some .lt := by
    change Float.lt x 0 = true ↔ _
    rw [Float.lt, decide_eq_true_iff]
    change x.toModel.unpack.lt (.zero .positive) = true ↔ _
    rw [UnpackedFloat.lt, beq_iff_eq]
  rw [hparts.isNegative_iff, ne_eq, hparts.mantissa_eq_zero_iff, hcompare, hparts.unpack]
  simp only [UnpackedFloat.unpack, unpackExponent_packComponents, unpackMantissa_packComponents,
    unpackSign_packComponents, Sign.ofBitVec_toBitVec, if_neg hfinite]
  cases s <;> split_ifs <;> simp_all [UnpackedFloat.compare]

theorem HasParts.abs (hx : HasParts x s ex ma) (hfinite : ex ≠ -1#11) : HasParts x.abs .positive ex ma := by
  have hnumber : isNaNBits (packComponents Format.binary64 .positive ex ma) = false := by
    rw [isNaNBits, decide_eq_false_iff_not, unpackExponent_packComponents]
    exact fun h => hfinite h.1
  change UnpackedFloat.pack Format.binary64 x.toModel.unpack.abs = _
  rw [hx.unpack, unpack_abs, pack_unpack, hnumber]
  rfl

/-- The absolute value of a finite double is of its magnitude. -/
theorem ofFloat_abs (hx : isFinite x = true) : Binary.ofFloat x.abs = Binary.ofFloat x := by
  obtain ⟨s, ex, ma, hparts⟩ := exists_parts x
  rw [hparts.ofFloat, (hparts.abs (hparts.isFinite_iff.mp hx)).ofFloat]

end Colloquy.Decimal
