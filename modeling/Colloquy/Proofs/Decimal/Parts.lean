import Mathlib
import Colloquy.Decimal.Binary

/-! The three parts in which a double is held, and what is read off them: the sign, whether the double is finite, and
its magnitude. -/

namespace Colloquy.Decimal

open Float.Model Float.Model.UnpackedFloat

section Bits

variable (s : Sign) (ex : BitVec 11) (ma : BitVec 52)

theorem toNat_packComponents : (packComponents Format.binary64 s ex ma).toNat =
    s.toBitVec.toNat * 2 ^ 63 + ex.toNat * 2 ^ 52 + ma.toNat := by
  rw [packComponents, BitVec.toNat_append, BitVec.toNat_append, ← Nat.shiftLeft_add_eq_or_of_lt ma.isLt,
    ← Nat.shiftLeft_add_eq_or_of_lt ex.isLt, Nat.shiftLeft_eq, Nat.shiftLeft_eq]
  ring

theorem exponentBits_packComponents :
    ((UInt64.ofBitVec (packComponents Format.binary64 s ex ma) >>> 52) &&& 0x7FF).toNat = ex.toNat := by
  have hex := ex.isLt
  have hma := ma.isLt
  rw [UInt64.toNat_and, UInt64.toNat_shiftRight, UInt64.toNat_ofBitVec, toNat_packComponents]
  change (_ >>> 52) &&& (2 ^ 11 - 1) = _
  rw [Nat.and_two_pow_sub_one_eq_mod, Nat.shiftRight_eq_div_pow]
  omega

theorem mantissaBits_packComponents :
    (UInt64.ofBitVec (packComponents Format.binary64 s ex ma) &&& 0xFFFFFFFFFFFFF).toNat = ma.toNat := by
  have hma := ma.isLt
  rw [UInt64.toNat_and, UInt64.toNat_ofBitVec, toNat_packComponents]
  change _ &&& (2 ^ 52 - 1) = _
  rw [Nat.and_two_pow_sub_one_eq_mod]
  omega

theorem signBit_packComponents :
    (UInt64.ofBitVec (packComponents Format.binary64 s ex ma) >>> 63).toNat = s.toBitVec.toNat := by
  have hex := ex.isLt
  have hma := ma.isLt
  rw [UInt64.toNat_shiftRight, UInt64.toNat_ofBitVec, toNat_packComponents]
  change _ >>> 63 = _
  rw [Nat.shiftRight_eq_div_pow]
  omega

end Bits

variable {x : Float} {s : Sign} {ex : BitVec 11} {ma : BitVec 52}

/-- The double is held as a sign, an exponent and a mantissa. -/
def HasParts (x : Float) (s : Sign) (ex : BitVec 11) (ma : BitVec 52) : Prop :=
  x.toBits.toBitVec = packComponents Format.binary64 s ex ma

theorem exists_parts (x : Float) : ∃ s ex ma, HasParts x s ex ma := by
  have hbits (b : BitVec Format.binary64.numBits) : b = packComponents Format.binary64
      (.ofBitVec (unpackSign b)) (unpackExponent b) (unpackMantissa b) :=
    (packComponents_unpackSign_unpackExponent_unpackMantissa b).symm
  exact ⟨_, _, _, hbits x.toBits.toBitVec⟩

theorem HasParts.toBits (hx : HasParts x s ex ma) : x.toBits = .ofBitVec (packComponents Format.binary64 s ex ma) :=
  congrArg UInt64.ofBitVec hx

theorem HasParts.unpack (hx : HasParts x s ex ma) :
    x.toModel.unpack = UnpackedFloat.unpack Format.binary64 (packComponents Format.binary64 s ex ma) :=
  congrArg (UnpackedFloat.unpack Format.binary64) hx

theorem eq_neg_one_iff : ex = -1#11 ↔ ex.toNat = 2047 := by
  rw [← BitVec.toNat_inj]
  rfl

theorem HasParts.isFinite_iff (hx : HasParts x s ex ma) : isFinite x = true ↔ ex ≠ -1#11 := by
  rw [isFinite, hx.toBits, bne_iff_ne, ne_eq, ← UInt64.toNat_inj, exponentBits_packComponents, ne_eq, eq_neg_one_iff]
  rfl

theorem HasParts.isNegative_iff (hx : HasParts x s ex ma) : isNegative x = true ↔ s = .negative := by
  rw [isNegative, hx.toBits, beq_iff_eq, ← UInt64.toNat_inj, signBit_packComponents]
  cases s <;> simp [Sign.toBitVec]

theorem HasParts.ofFloat (hx : HasParts x s ex ma) : Binary.ofFloat x =
    if ex.toNat = 0 then ⟨ma.toNat, -1074, false⟩
    else ⟨2 ^ 52 + ma.toNat, ex.toNat - 1075, ma.toNat == 0 && ex.toNat > 1⟩ := by
  unfold Binary.ofFloat Binary.ofBits
  dsimp only
  rw [hx.toBits, exponentBits_packComponents, mantissaBits_packComponents]
  simp only [beq_iff_eq]
  rfl

theorem HasParts.mantissa_eq_zero_iff (hx : HasParts x s ex ma) :
    (Binary.ofFloat x).m = 0 ↔ ex = 0#11 ∧ ma = 0#52 := by
  rw [hx.ofFloat, ← BitVec.toNat_inj, ← BitVec.toNat_inj, BitVec.toNat_zero, BitVec.toNat_zero]
  split
  · simp [*]
  · simp [*]

end Colloquy.Decimal
