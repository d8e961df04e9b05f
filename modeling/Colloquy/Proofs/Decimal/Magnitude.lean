import Colloquy.Decimal.Reader
import Colloquy.Proofs.Decimal.Parts

/-! The numbers that doubles stand for. An integer of at most 53 binary digits becomes the double of its own magnitude,
and one of more digits stays as large as these at least (`absValue?_intToFloat_small`, `absValue?_intToFloat_large`). -/

namespace Colloquy.Decimal

open Float.Model Float.Model.UnpackedFloat

def Binary.value (b : Binary) : ℚ := b.m * 2 ^ b.q

/-- The magnitude of a double; an infinity and what is no number have none. -/
def absValue? (x : Float) : Option ℚ := if isFinite x then some (Binary.ofFloat x).value else none

/-- The value as a fraction of natural numbers. -/
theorem Binary.value_eq_div (b : Binary) : b.value = b.m * 2 ^ b.q.toNat / 2 ^ (-b.q).toNat := by
  rw [value, mul_div_assoc, ← zpow_natCast, ← zpow_natCast, ← zpow_sub₀ (by norm_num)]
  congr 2
  omega

theorem compareScaled_ne_lt_iff (bound : Nat) (b : Binary) : compareScaled bound 0 b.m b.q ≠ .lt ↔ b.value ≤ bound := by
  have hpow (k : Nat) : (0 : ℚ) < 2 ^ k := by positivity
  rw [b.value_eq_div, div_le_iff₀ (hpow _), compareScaled, ne_eq, compare_lt_iff_lt, not_lt]
  simp only [Int.toNat_zero, Int.neg_zero, Nat.pow_eq, pow_zero, mul_one]
  exact_mod_cast Iff.rfl

/-! ### Rounding to 53 digits -/

theorem log2_eq_52 {m : Nat} : m.log2 = 52 ↔ 2 ^ 52 ≤ m ∧ m < 2 ^ 53 := by
  rcases Nat.eq_zero_or_pos m with rfl | hpos
  · simp
  · rw [Nat.log2_eq_iff hpos.ne']

theorem log2_mul_two_pow {m : Nat} (hm : m ≠ 0) (k : Nat) : (m * 2 ^ k).log2 = m.log2 + k := by
  obtain ⟨hlo, hhi⟩ := (Nat.log2_eq_iff hm).mp rfl
  rw [Nat.log2_eq_iff (by positivity), add_right_comm, pow_add, pow_add]
  exact ⟨Nat.mul_le_mul_right _ hlo, Nat.mul_lt_mul_of_pos_right hhi (by positivity)⟩

theorem targetExponent_binary64 (m : Nat) (e : Int) :
    Format.binary64.targetExponent (totalExponent m e) = max (m.log2 + e - 52) (-1074) := by
  have hbits : (Format.binary64.mantissaBits : Int) = 53 := rfl
  have hmin : Format.binary64.minExponent = -1074 := rfl
  rw [Format.targetExponent, totalExponent, hbits, hmin]
  congr 1
  omega

theorem mantissa_shiftRight (em : ExtendedMantissa) (k : Nat) : (em >>> k).mantissa = em.mantissa / 2 ^ k := by
  change (k.repeat ExtendedMantissa.shiftRightOne em).mantissa = _
  induction k with
  | zero => simp [Nat.repeat]
  | succ k ih => rw [Nat.repeat, ExtendedMantissa.shiftRightOne, ih, Nat.div_div_eq_div_mul, pow_succ]

theorem shiftRight_exact (m k : Nat) :
    (ExtendedMantissa.mk (m * 2 ^ k) false false) >>> k = ExtendedMantissa.mk m false false := by
  change k.repeat ExtendedMantissa.shiftRightOne _ = _
  induction k generalizing m with
  | zero => simp [Nat.repeat]
  | succ k ih =>
      have hdouble : m * 2 ^ (k + 1) = (m * 2) * 2 ^ k := by ring
      rw [Nat.repeat, hdouble, ih, ExtendedMantissa.shiftRightOne]
      simp

theorem roundedMantissa_bounds (em : ExtendedMantissa) :
    em.mantissa ≤ em.roundedMantissa ∧ em.roundedMantissa ≤ em.mantissa + 1 := by
  obtain ⟨m, _ | _, _ | _⟩ := em <;>
    simp [ExtendedMantissa.roundedMantissa, ExtendedMantissa.accuracy, Accuracy.roundToNearestEven]
  omega

theorem shift_exact {m : Nat} {e : Int} (hm : m.log2 = 52) (he : -1074 ≤ e) (k : Nat) :
    shiftToTargetExponent Format.binary64 (m * 2 ^ k) (e - k) .exact = (ExtendedMantissa.mk m false false, e) := by
  have hpos : m ≠ 0 := by
    rintro rfl
    simp at hm
  have htarget : max (((52 + k : Nat) : Int) + (e - k) - 52) (-1074) = e := by omega
  have hk : (e - (e - k)).toNat = k := by omega
  rw [shiftToTargetExponent, targetExponent_binary64, log2_mul_two_pow hpos, hm, htarget, shiftToExponent, hk]
  refine Prod.ext (shiftRight_exact m k) ?_
  simp

/-- Rounding takes off binary zeros, and leaves a number of 53 digits as it is. -/
theorem roundWithAccuracy_exact (s : Sign) {m : Nat} {e : Int} (hpos : 0 < m) (hm : m.log2 = 52) (he : -1074 ≤ e)
    (k : Nat) : roundWithAccuracy Format.binary64 s (m * 2 ^ k) (e - k) .exact = .finite s m e hpos := by
  have hsecond := shift_exact hm he 0
  rw [pow_zero, mul_one, Nat.cast_zero, sub_zero] at hsecond
  rw [roundWithAccuracy, shift_exact hm he k]
  simp only [ExtendedMantissa.roundedMantissa, ExtendedMantissa.accuracy, Accuracy.roundToNearestEven, hsecond]
  exact dif_neg hpos.ne'

/-- A number of 53 digits or more is rounded to 53, and the digits that are left stand no lower than before. -/
theorem roundWithAccuracy_long (s : Sign) {m : Nat} {e : Int} (hm : 52 ≤ m.log2) (he : -1074 ≤ m.log2 + e - 52) :
    ∃ m' e' hpos, roundWithAccuracy Format.binary64 s m e .exact = .finite s m' e' hpos ∧ m'.log2 = 52 ∧
      m.log2 + e - 52 ≤ e' := by
  have hne : m ≠ 0 := by
    rintro rfl
    simp at hm
  obtain ⟨k, hk⟩ := Nat.exists_eq_add_of_le hm
  have hfirst : shiftToTargetExponent Format.binary64 m e .exact = ((ExtendedMantissa.mk m false false) >>> k, e + k) := by
    have htarget : max (((52 + k : Nat) : Int) + e - 52) (-1074) = e + k := by omega
    rw [shiftToTargetExponent, targetExponent_binary64, hk, htarget, shiftToExponent]
    simp [ExtendedMantissa.ofMantissaAndAccuracy]
  obtain ⟨hmlo, hmhi⟩ := (Nat.log2_eq_iff hne).mp hk
  have hlo : 2 ^ 52 ≤ m / 2 ^ k := by
    rwa [Nat.le_div_iff_mul_le (by positivity), ← pow_add]
  have hhi : m / 2 ^ k < 2 ^ 53 := by
    rwa [Nat.div_lt_iff_lt_mul (by positivity), ← pow_add, show 53 + k = 52 + k + 1 by omega]
  obtain ⟨hrlo, hrhi⟩ := roundedMantissa_bounds ((ExtendedMantissa.mk m false false) >>> k)
  rw [mantissa_shiftRight] at hrlo hrhi
  dsimp only at hrlo hrhi
  generalize hrounded : ((ExtendedMantissa.mk m false false) >>> k).roundedMantissa = r at hrlo hrhi
  -- Rounding up may give one digit too many, and then all digits but the first are zero.
  obtain ⟨m', j, hm', hr⟩ : ∃ m' j, m'.log2 = 52 ∧ r = m' * 2 ^ j := by
    rcases Nat.lt_or_ge r (2 ^ 53) with hlt | hge
    · exact ⟨r, 0, log2_eq_52.mpr ⟨hlo.trans hrlo, hlt⟩, by simp⟩
    · exact ⟨2 ^ 52, 1, log2_eq_52.mpr ⟨le_rfl, by decide⟩, by omega⟩
  have hpos : 0 < m' := lt_of_lt_of_le (by positivity) (log2_eq_52.mp hm').1
  have hsecond := shift_exact hm' (e := e + k + j) (by omega) j
  rw [add_sub_cancel_right] at hsecond
  refine ⟨m', e + k + j, hpos, ?_, hm', by omega⟩
  rw [roundWithAccuracy, hfirst]
  simp only [hrounded, hr, hsecond]
  exact dif_neg hpos.ne'

/-! ### Bits -/

/-- The double of an unpacked number. -/
def packed (u : UnpackedFloat) : Float := .ofModel (.pack u)

section Packed

variable {s : Sign} {m : Nat} {e : Int}

theorem absValue?_packed {u : UnpackedFloat} {ex : BitVec 11} {ma : BitVec 52}
    (hu : UnpackedFloat.pack Format.binary64 u = packComponents Format.binary64 s ex ma) (hzero : ex.toNat ≠ 0) :
    absValue? (packed u) =
      if ex.toNat = 2047 then none else some ((2 ^ 52 + ma.toNat : ℚ) * 2 ^ ((ex.toNat : Int) - 1075)) := by
  have hparts : HasParts (packed u) s ex ma := hu
  have hvalue : (Binary.ofFloat (packed u)).value = (2 ^ 52 + ma.toNat : ℚ) * 2 ^ ((ex.toNat : Int) - 1075) := by
    rw [hparts.ofFloat, if_neg hzero, Binary.value]
    norm_num
  rw [absValue?, hvalue]
  simp only [hparts.isFinite_iff, ne_eq, eq_neg_one_iff, ite_not]

theorem absValue?_zero (s : Sign) : absValue? (packed (.zero s)) = some 0 := by
  have hfinite : isFinite (packed (.zero s)) = true := by cases s <;> rfl
  have hm : (Binary.ofFloat (packed (.zero s))).m = 0 := by cases s <;> rfl
  rw [absValue?, if_pos hfinite, Binary.value, hm, Nat.cast_zero, zero_mul]

theorem absValue?_infinity (s : Sign) : absValue? (packed (.infinity s)) = none := by
  have hfinite : isFinite (packed (.infinity s)) = false := by cases s <;> rfl
  rw [absValue?, hfinite]
  rfl

theorem biasedExponent_binary64 (e : Int) :
    e + Format.binary64.exponentBias + Format.binary64.mantissaBitsWithoutImplicit = e + 1075 := by
  rw [add_assoc]
  rfl

/-- What is too large for a double is taken for an infinity. -/
theorem packed_overflow (hpos : 0 < m) (hhi : 971 < e) : packed (.finite s m e hpos) = packed (.infinity s) := by
  have hpack : UnpackedFloat.pack Format.binary64 (.finite s m e hpos) = packedInfinity Format.binary64 s := by
    rw [UnpackedFloat.pack]
    dsimp only
    rw [biasedExponent_binary64, if_pos (by omega)]
  unfold packed Float.Model.pack
  simp only [hpack]
  rfl

/-- A number of 53 digits that is not too large, as it is held. -/
theorem pack_normal (hpos : 0 < m) (hm : m.log2 = 52) (hlo : -1074 ≤ e) (hhi : e ≤ 971) :
    ∃ (ex : BitVec 11) (ma : BitVec 52),
      UnpackedFloat.pack Format.binary64 (.finite s m e hpos) = packComponents Format.binary64 s ex ma ∧
        (ex.toNat : Int) = e + 1075 ∧ 2 ^ 52 + ma.toNat = m := by
  obtain ⟨hmlo, hmhi⟩ := log2_eq_52.mp hm
  have hbits : Format.binary64.mantissaBits = 53 := rfl
  refine ⟨BitVec.ofNat 11 (e + 1075).toNat, BitVec.ofNat 52 m, ?_, ?_, ?_⟩
  · rw [UnpackedFloat.pack]
    dsimp only
    rw [biasedExponent_binary64, if_neg (by omega), hm, if_pos hbits.symm]
  · rw [BitVec.toNat_ofNat, Nat.mod_eq_of_lt (by omega)]
    omega
  · rw [BitVec.toNat_ofNat]
    omega

theorem absValue?_normal (hpos : 0 < m) (hm : m.log2 = 52) (hlo : -1074 ≤ e) :
    absValue? (packed (.finite s m e hpos)) = if e ≤ 971 then some ((m : ℚ) * 2 ^ e) else none := by
  by_cases hhi : e ≤ 971
  · obtain ⟨ex, ma, hpack, hex, hma⟩ := pack_normal (s := s) hpos hm hlo hhi
    rw [absValue?_packed hpack (by omega), if_neg (by omega), if_pos hhi, hex, add_sub_cancel_right, ← hma]
    norm_num
  · rw [packed_overflow hpos (by omega), absValue?_infinity, if_neg hhi]

theorem unpack_normal (hpos : 0 < m) (hm : m.log2 = 52) (hlo : -1074 ≤ e) (hhi : e ≤ 971) :
    ∃ s', (packed (.finite s m e hpos)).toModel.unpack = .finite s' m e hpos := by
  obtain ⟨ex, ma, hpack, hex, hma⟩ := pack_normal (s := s) hpos hm hlo hhi
  have hzero : ex ≠ 0#11 := by
    rintro rfl
    simp at hex
    omega
  have hones : ex ≠ -1#11 := by
    rintro rfl
    simp at hex
    omega
  have hmantissa : (1#1 ++ ma).toNat = m := by
    rw [BitVec.toNat_append, ← Nat.shiftLeft_add_eq_or_of_lt ma.isLt]
    exact hma
  have hexponent : (ex.toNat : Int) - 1075 = e := by omega
  refine ⟨.ofBitVec (unpackSign (packComponents Format.binary64 s ex ma)), ?_⟩
  change UnpackedFloat.unpack Format.binary64 (UnpackedFloat.pack Format.binary64 _) = _
  rw [hpack]
  simp only [UnpackedFloat.unpack, unpackExponent_packComponents, unpackMantissa_packComponents, if_neg hones,
    if_neg hzero, hmantissa]
  congr 1

/-- Turning the sign leaves the magnitude. -/
theorem absValue?_neg (hpos : 0 < m) (hm : m.log2 = 52) (hlo : -1074 ≤ e) :
    absValue? (-packed (.finite s m e hpos)) = absValue? (packed (.finite s m e hpos)) := by
  by_cases hhi : e ≤ 971
  · obtain ⟨s', hunpack⟩ := unpack_normal (s := s) hpos hm hlo hhi
    have hneg : -packed (.finite s m e hpos) = packed (.finite (-s') m e hpos) := by
      change packed (packed (.finite s m e hpos)).toModel.unpack.neg = _
      rw [hunpack]
      rfl
    rw [hneg, absValue?_normal hpos hm hlo, absValue?_normal hpos hm hlo]
  · have hneg : -packed (.infinity s) = packed (.infinity (-s)) := by cases s <;> rfl
    rw [packed_overflow hpos (by omega), hneg, absValue?_infinity, absValue?_infinity]

end Packed

/-! ### Integers -/

theorem unpack_one :
    (Float.ofBits 0x3FF0000000000000).toModel.unpack = .finite .positive (1 * 2 ^ 52) (-52) (by decide) := rfl

theorem ofNat_binary64 {k : Nat} (hpos : 0 < k) (hk : k.log2 ≤ 52) :
    ∃ hm, UnpackedFloat.ofNat Format.binary64 k =
      .finite .positive (k * 2 ^ (52 - k.log2)) (-(52 - k.log2 : Nat)) hm := by
  have hm : 0 < k * 2 ^ (52 - k.log2) := by positivity
  have hlog : (k * 2 ^ (52 - k.log2)).log2 = 52 := by
    rw [log2_mul_two_pow hpos.ne']
    omega
  have htarget : (0 - max ((k.log2 : Int) + 0 - 52) (-1074)).toNat = 52 - k.log2 := by omega
  have hrounded := roundWithAccuracy_exact .positive hm hlog (e := -(52 - k.log2 : Nat)) (by omega) 0
  have hcompare : compare (k : Int) 0 = .gt := compare_gt_iff_gt.mpr (by exact_mod_cast hpos)
  refine ⟨hm, ?_⟩
  rw [UnpackedFloat.ofNat, UnpackedFloat.ofInt, UnpackedFloat.normalize, hcompare]
  dsimp only
  rw [UnpackedFloat.round, Int.toNat_natCast, targetExponent_binary64, decreaseExponent, htarget, Nat.shiftLeft_eq]
  simpa using hrounded

theorem ofScientific_small {k : Nat} (hpos : 0 < k) (hk : k < 2 ^ 53) :
    ∃ s m e hm, Float.ofScientific k false 0 = packed (.finite s m e hm) ∧ m.log2 = 52 ∧ -1074 ≤ e ∧ e ≤ 971 ∧
      (m : ℚ) * 2 ^ e = k := by
  have hlog : k.log2 ≤ 52 := Nat.lt_succ_iff.mp ((Nat.log2_lt hpos.ne').mpr hk)
  have hm : (k * 2 ^ (52 - k.log2)).log2 = 52 := by
    rw [log2_mul_two_pow hpos.ne']
    omega
  obtain ⟨hmpos, hofNat⟩ := ofNat_binary64 hpos hlog
  have hint : k.toUInt64.toFloat = packed (.finite .positive (k * 2 ^ (52 - k.log2)) (-(52 - k.log2 : Nat)) hmpos) := by
    rw [← hofNat, UInt64.toFloat, packed]
    have hk : k.toUInt64.toNat = k := by
      rw [Nat.toUInt64, UInt64.toNat_ofNat', Nat.mod_eq_of_lt (by omega)]
    rw [Float.Model.ofUInt64, UnpackedFloat.ofUInt64, hk]
  obtain ⟨s, hunpack⟩ := unpack_normal (s := .positive) hmpos hm (e := -(52 - k.log2 : Nat)) (by omega) (by omega)
  refine ⟨s * .positive, k * 2 ^ (52 - k.log2), -(52 - k.log2 : Nat), hmpos, ?_, hm, by omega, by omega, ?_⟩
  · rw [Float.ofScientific, dif_pos ⟨hk, by decide⟩, if_neg Bool.false_ne_true, hint]
    change packed (UnpackedFloat.mul Format.binary64 (packed _).toModel.unpack
      (Float.ofBits 0x3FF0000000000000).toModel.unpack) = _
    rw [hunpack, unpack_one, ← roundWithAccuracy_exact (s * .positive) hmpos hm (by omega) 52]
    simp only [UnpackedFloat.mul, one_mul]
    rfl
  · rw [zpow_neg, zpow_natCast]
    push_cast
    rw [mul_assoc, mul_inv_cancel₀ (by positivity), mul_one]

theorem ofScientific_large {k : Nat} (hk : 2 ^ 53 ≤ k) :
    ∃ s m e hm, Float.ofScientific k false 0 = packed (.finite s m e hm) ∧ m.log2 = 52 ∧ 1 ≤ e := by
  have hne : k ≠ 0 := by omega
  have hlog : 53 ≤ k.log2 := by
    rwa [Nat.le_log2 hne]
  have hlong : (k * 2 ^ 53).log2 = k.log2 + 53 := log2_mul_two_pow hne 53
  obtain ⟨m, e, hm, hrounded, hm52, he⟩ :=
    roundWithAccuracy_long .positive (m := k * 2 ^ 53) (e := -53) (by omega) (by omega)
  refine ⟨.positive, m, e, hm, ?_, hm52, by omega⟩
  rw [Float.ofScientific, dif_neg (by omega), ← hrounded]
  change packed (UnpackedFloat.ofScientific Format.binary64 k 0) = _
  have hsmall : ¬(0 : Int) < -(2 ^ Format.binary64.exponentBits + k.log2) := by
    change ¬(0 : Int) < -(2 ^ 11 + k.log2)
    omega
  have hfactor : k <<< Format.binary64.mantissaBits * 10 ^ Int.toNat 0 = k * 2 ^ 53 := by
    rw [Nat.shiftLeft_eq]
    exact Nat.mul_one _
  rw [UnpackedFloat.ofScientific, dif_neg hne, if_neg (by decide), if_neg hsmall, if_pos le_rfl, UnpackedFloat.mul,
    hfactor]
  rfl

/-- The sign of an integer has no part in the magnitude. -/
theorem absValue?_intToFloat {n : Int} {s : Sign} {m : Nat} {e : Int} {hpos : 0 < m}
    (hfloat : Float.ofScientific n.natAbs false 0 = packed (.finite s m e hpos)) (hm : m.log2 = 52) (he : -1074 ≤ e) :
    absValue? (intToFloat n) = if e ≤ 971 then some ((m : ℚ) * 2 ^ e) else none := by
  rw [intToFloat, hfloat, ← absValue?_normal (s := s) hpos hm he]
  split
  · exact absValue?_neg hpos hm he
  · rfl

/-- An integer of at most 53 digits becomes a double of its magnitude. -/
theorem absValue?_intToFloat_small {n : Int} (hn : n.natAbs < 2 ^ 53) :
    absValue? (intToFloat n) = some (n.natAbs : ℚ) := by
  rcases Nat.eq_zero_or_pos n.natAbs with hzero | hpos
  · obtain rfl := Int.natAbs_eq_zero.mp hzero
    exact absValue?_zero .positive
  · obtain ⟨s, m, e, hm, hfloat, hm52, hlo, hhi, hvalue⟩ := ofScientific_small hpos hn
    rw [absValue?_intToFloat hfloat hm52 hlo, if_pos hhi, hvalue]

/-- An integer of more digits becomes a double that is no smaller than the least of them. -/
theorem absValue?_intToFloat_large {n : Int} (hn : 2 ^ 53 ≤ n.natAbs) {v : ℚ} (hv : absValue? (intToFloat n) = some v) :
    2 ^ 53 ≤ v := by
  obtain ⟨s, m, e, hm, hfloat, hm52, he⟩ := ofScientific_large hn
  have hmantissa : (2 : ℚ) ^ 52 ≤ m := by exact_mod_cast (log2_eq_52.mp hm52).1
  have hpower : (2 : ℚ) ^ (1 : Int) ≤ 2 ^ e := zpow_le_zpow_right₀ (by norm_num) he
  rw [absValue?_intToFloat hfloat hm52 (by omega)] at hv
  split at hv
  · calc (2 : ℚ) ^ 53 = 2 ^ 52 * 2 ^ (1 : Int) := by norm_num
      _ ≤ (m : ℚ) * 2 ^ e := by gcongr
      _ = v := Option.some.inj hv
  · cases hv

end Colloquy.Decimal
