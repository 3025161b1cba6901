import FlowAudit.Number.Binary
import Mathlib

/-!
# FlowAudit.Proofs.Number.Mantissa

**What rounding and packing do to a number with a full mantissa.** A floating-point number above zero that
is neither too small nor too large has a mantissa of fifty-three bits (`Full`). Rounding a quotient to a
whole number of units passes no whole number (`roundedQuotient_le`, `le_roundedQuotient`), and the result
is full again, with the next exponent where it carries over (`full_roundWithAccuracy`). Packing into
sixty-four bits loses nothing of a full number (`Full.repack`). A whole number below 2^53 is full with
its exact value (`isFull_ofNat`).
-/

namespace FlowAudit.Number

open Float.Model Float.Model.UnpackedFloat

/-! ### Rounding a quotient to a whole number -/

theorem mantissa_shiftRight (em : ExtendedMantissa) (k : ℕ) :
    (em >>> k).mantissa = em.mantissa / 2 ^ k := by
  induction k with
  | zero => exact (Nat.div_one _).symm
  | succ k ih =>
      show (em >>> k).mantissa / 2 = _
      rw [ih, Nat.div_div_eq_div_mul, Nat.pow_succ]

/-- Nothing is lost of a mantissa that only zeros are shifted out of. -/
theorem shiftRight_exact (m k : ℕ) :
    (⟨m * 2 ^ k, false, false⟩ : ExtendedMantissa) >>> k = ⟨m, false, false⟩ := by
  induction k generalizing m with
  | zero => exact congrArg (ExtendedMantissa.mk · false false) (Nat.mul_one m)
  | succ k ih =>
      have halves : m * 2 ^ (k + 1) = 2 * m * 2 ^ k := by rw [Nat.pow_succ]; ring
      show ((⟨m * 2 ^ (k + 1), false, false⟩ : ExtendedMantissa) >>> k).shiftRightOne = _
      rw [halves, ih]
      simp [ExtendedMantissa.shiftRightOne]

theorem roundedMantissa_bounds (em : ExtendedMantissa) :
    em.mantissa ≤ em.roundedMantissa ∧ em.roundedMantissa ≤ em.mantissa + 1 := by
  obtain ⟨m, roundBit, stickyBit⟩ := em
  cases roundBit <;> cases stickyBit <;>
    simp only [ExtendedMantissa.roundedMantissa, ExtendedMantissa.accuracy,
      Accuracy.roundToNearestEven] <;> omega

theorem mantissa_ofMantissaAndAccuracy (m : ℕ) (accuracy : Accuracy) :
    (ExtendedMantissa.ofMantissaAndAccuracy m accuracy).mantissa = m := by
  rcases accuracy with _ | (_ | _ | _) <;> rfl

/-- A quotient together with what is left over, shifted to the right and rounded. -/
def roundedQuotient (num den k : ℕ) : ℕ :=
  (ExtendedMantissa.ofMantissaAndAccuracy (num / den) (accuracyOfFraction (num % den) den)
    >>> k).roundedMantissa

theorem roundedQuotient_bounds (num den k : ℕ) :
    num / (den * 2 ^ k) ≤ roundedQuotient num den k ∧
      roundedQuotient num den k ≤ num / (den * 2 ^ k) + 1 := by
  have bounds := roundedMantissa_bounds
    (ExtendedMantissa.ofMantissaAndAccuracy (num / den) (accuracyOfFraction (num % den) den) >>> k)
  rwa [mantissa_shiftRight, mantissa_ofMantissaAndAccuracy, Nat.div_div_eq_div_mul] at bounds

theorem roundedQuotient_mul {den : ℕ} (pos : 0 < den) (w k : ℕ) :
    roundedQuotient (w * (den * 2 ^ k)) den k = w := by
  have regroup : w * (den * 2 ^ k) = w * 2 ^ k * den := by ring
  have exact : accuracyOfFraction (w * 2 ^ k * den % den) den = .exact := by
    rw [Nat.mul_mod_left]
    rfl
  unfold roundedQuotient
  rw [regroup, exact, Nat.mul_div_cancel _ pos]
  exact congrArg ExtendedMantissa.roundedMantissa (shiftRight_exact w k)

/-- **Rounding a quotient up does not pass a whole number.** -/
theorem roundedQuotient_le {num den : ℕ} (pos : 0 < den) {w k : ℕ}
    (le : num ≤ w * (den * 2 ^ k)) : roundedQuotient num den k ≤ w := by
  have unit : 0 < den * 2 ^ k := Nat.mul_pos pos (Nat.two_pow_pos k)
  rcases Nat.lt_or_eq_of_le le with less | rfl
  · have below : num / (den * 2 ^ k) < w := (Nat.div_lt_iff_lt_mul unit).mpr less
    exact (roundedQuotient_bounds num den k).2.trans below
  · exact (roundedQuotient_mul pos w k).le

/-- **Rounding a quotient down does not pass a whole number.** -/
theorem le_roundedQuotient {num den : ℕ} (pos : 0 < den) {w k : ℕ}
    (le : w * (den * 2 ^ k) ≤ num) : w ≤ roundedQuotient num den k := by
  have unit : 0 < den * 2 ^ k := Nat.mul_pos pos (Nat.two_pow_pos k)
  exact ((Nat.le_div_iff_mul_le unit).mpr le).trans (roundedQuotient_bounds num den k).1

/-! ### Full mantissas -/

/-- A number above zero with a mantissa of fifty-three bits: `m` times two to the power `e`. -/
structure Full (x : UnpackedFloat) (m : ℕ) (e : ℤ) : Prop where
  low : 2 ^ 52 ≤ m
  high : m < 2 ^ 53
  eq : ∃ pos, x = .finite .positive m e pos

theorem log2_of_full {m : ℕ} (low : 2 ^ 52 ≤ m) (high : m < 2 ^ 53) : m.log2 = 52 :=
  (Nat.log2_eq_iff (by omega)).mpr ⟨low, high⟩

theorem log2_mul_two_pow {n : ℕ} (pos : 0 < n) (k : ℕ) : (n * 2 ^ k).log2 = n.log2 + k := by
  have bits := (Nat.log2_eq_iff (Nat.ne_of_gt pos)).mp rfl
  refine (Nat.log2_eq_iff (Nat.ne_of_gt (Nat.mul_pos pos (Nat.two_pow_pos k)))).mpr ?_
  rw [Nat.pow_add, Nat.add_right_comm, Nat.pow_add]
  exact ⟨Nat.mul_le_mul_right _ bits.1, Nat.mul_lt_mul_of_pos_right bits.2 (Nat.two_pow_pos k)⟩

theorem targetExponent_of_log2 {m k : ℕ} (log : m.log2 = 52 + k) {e : ℤ} (least : -1074 ≤ e) :
    Format.binary64.targetExponent (totalExponent m e) = e + k := by
  simp only [Format.targetExponent, totalExponent, Format.mantissaBits, Format.minExponent, log]
  norm_num
  omega

theorem shiftToTargetExponent_of_log2 {m k : ℕ} (log : m.log2 = 52 + k) {e : ℤ}
    (least : -1074 ≤ e) (accuracy : Accuracy) :
    shiftToTargetExponent Format.binary64 m e accuracy =
      (ExtendedMantissa.ofMantissaAndAccuracy m accuracy >>> k, e + k) := by
  have amount : (e + k - e).toNat = k := by omega
  unfold shiftToTargetExponent
  rw [targetExponent_of_log2 log least]
  unfold shiftToExponent
  dsimp only
  rw [amount]

/-- **A mantissa with bits to spare is rounded to a full one.** Where it is rounded up to 2^53, one more
bit is dropped and the exponent grows. -/
theorem full_roundWithAccuracy {m k : ℕ} (log : m.log2 = 52 + k) {e : ℤ} (least : -1074 ≤ e)
    {accuracy : Accuracy} {r : ℕ}
    (rounded : (ExtendedMantissa.ofMantissaAndAccuracy m accuracy >>> k).roundedMantissa = r)
    (low : 2 ^ 52 ≤ r) :
    (r < 2 ^ 53 → Full (roundWithAccuracy Format.binary64 .positive m e accuracy) r (e + k)) ∧
    (r = 2 ^ 53 →
      Full (roundWithAccuracy Format.binary64 .positive m e accuracy) (2 ^ 52) (e + k + 1)) := by
  have unfolded : roundWithAccuracy Format.binary64 .positive m e accuracy =
      let final := shiftToTargetExponent Format.binary64 r (e + k) .exact
      if h : final.1.mantissa = 0 then .zero .positive
      else .finite .positive final.1.mantissa final.2 (Nat.pos_of_ne_zero h) := by
    unfold roundWithAccuracy
    rw [shiftToTargetExponent_of_log2 log least]
    dsimp only
    rw [rounded]
  rw [unfolded]
  constructor
  · intro high
    rw [shiftToTargetExponent_of_log2 (k := 0) (log2_of_full low high) (by omega)]
    refine ⟨low, high, Nat.lt_of_lt_of_le (Nat.two_pow_pos 52) low, ?_⟩
    show (if h : r = 0 then _ else UnpackedFloat.finite .positive r (e + k + (0 : ℕ)) _) = _
    rw [dif_neg (by omega)]
    simp only [Nat.cast_zero, Int.add_zero]
  · rintro rfl
    rw [shiftToTargetExponent_of_log2 (k := 1) Nat.log2_two_pow (by omega)]
    exact ⟨by decide, by decide, Nat.two_pow_pos 52, rfl⟩

/-- Zeros at the end of a mantissa go to the exponent. -/
theorem full_exact {m k : ℕ} (low : 2 ^ 52 ≤ m) (high : m < 2 ^ 53) {e : ℤ} (least : -1074 ≤ e) :
    Full (roundWithAccuracy Format.binary64 .positive (m * 2 ^ k) e .exact) m (e + k) := by
  have log : (m * 2 ^ k).log2 = 52 + k := by
    rw [log2_mul_two_pow (by omega), log2_of_full low high]
  have rounded :
      (ExtendedMantissa.ofMantissaAndAccuracy (m * 2 ^ k) .exact >>> k).roundedMantissa = m :=
    congrArg ExtendedMantissa.roundedMantissa (shiftRight_exact m k)
  exact (full_roundWithAccuracy log least rounded low).1 high

/-! ### Packing -/

/-- **Packing loses nothing** of a number whose mantissa has all its bits and whose exponent is within
the bounds of the format. -/
theorem unpack_pack (format : Format) {m : ℕ} {e : ℤ} (pos : 0 < m)
    (log : m.log2 = format.mantissaBitsWithoutImplicit)
    (low : 0 < e + format.exponentBias + format.mantissaBitsWithoutImplicit)
    (high : e + format.exponentBias + format.mantissaBitsWithoutImplicit + 1 <
      (2 ^ format.exponentBits : ℕ)) :
    unpack format (pack format (.finite .positive m e pos)) = .finite .positive m e pos := by
  obtain ⟨biased, exponent⟩ := Int.eq_ofNat_of_zero_le (Int.le_of_lt low)
  rw [exponent] at low high
  have bits := (Nat.log2_eq_iff (Nat.ne_of_gt pos)).mp log
  have packed : pack format (.finite .positive m e pos) =
      packComponents format .positive (BitVec.ofNat _ biased) (BitVec.ofNat _ m) := by
    have implicit : m.log2 + 1 = format.mantissaBits := by
      rw [log, Format.mantissaBits, Nat.add_comm]
    unfold UnpackedFloat.pack
    dsimp only
    rw [exponent, Int.toNat_natCast, if_neg (by omega), if_pos implicit]
  -- The first exponent is that of small numbers and the last that of infinity.
  have kept : (BitVec.ofNat format.exponentBits biased).toNat = biased := by
    rw [BitVec.toNat_ofNat, Nat.mod_eq_of_lt (by omega)]
  have notLast : BitVec.ofNat format.exponentBits biased ≠ -1#_ := by
    intro last
    rw [last, BitVec.neg_one_eq_allOnes, BitVec.toNat_allOnes] at kept
    omega
  have notFirst : BitVec.ofNat format.exponentBits biased ≠ 0#_ := by
    intro first
    rw [first, BitVec.toNat_ofNat, Nat.zero_mod] at kept
    omega
  have mantissa : (1#1 ++ BitVec.ofNat format.mantissaBitsWithoutImplicit m).toNat = m := by
    have leading : m = m % 2 ^ format.mantissaBitsWithoutImplicit +
        2 ^ format.mantissaBitsWithoutImplicit := by
      rw [Nat.mod_eq_sub_mod bits.1, Nat.mod_eq_of_lt (by omega)]
      omega
    rw [BitVec.toNat_append, BitVec.toNat_ofNat, BitVec.toNat_ofNat,
      ← Nat.shiftLeft_add_eq_or_of_lt (Nat.mod_lt _ (Nat.two_pow_pos _)), Nat.shiftLeft_eq]
    omega
  have back : (biased : ℤ) - (format.exponentBias + format.mantissaBitsWithoutImplicit) = e := by
    omega
  rw [packed]
  unfold UnpackedFloat.unpack
  simp only [unpackExponent_packComponents, unpackMantissa_packComponents,
    unpackSign_packComponents, if_neg notLast, if_neg notFirst, mantissa, kept, back]
  rfl

theorem Full.repack {x : UnpackedFloat} {m : ℕ} {e : ℤ} (full : Full x m e) (least : -1074 ≤ e)
    (most : e ≤ 971) : Full (Float.Model.pack x).unpack m e := by
  obtain ⟨low, high, pos, rfl⟩ := full
  have same := unpack_pack Format.binary64 (e := e) pos (log2_of_full low high)
    (by simp [Format.exponentBias]; omega) (by simp [Format.exponentBias]; omega)
  exact ⟨low, high, pos, same⟩

/-! ### Whole numbers -/

/-- A floating-point number above zero with a full mantissa. -/
def IsFull (x : Float) (m : ℕ) (e : ℤ) : Prop :=
  Full x.toModel.unpack m e

/-- A whole number is shifted to the left until its mantissa is full. -/
theorem full_ofNat {n : ℕ} (pos : 0 < n) (bound : n < 2 ^ 53) :
    Full (UnpackedFloat.ofNat Format.binary64 n) (n * 2 ^ (52 - n.log2)) (n.log2 - 52) := by
  have log : n.log2 < 53 := (Nat.log2_lt (Nat.ne_of_gt pos)).mpr bound
  have filled : (n * 2 ^ (52 - n.log2)).log2 = 52 := by
    rw [log2_mul_two_pow pos]
    omega
  have bits := (Nat.log2_eq_iff (Nat.ne_of_gt (Nat.mul_pos pos (Nat.two_pow_pos _)))).mp filled
  have target : Format.binary64.targetExponent (totalExponent n 0) = (n.log2 : ℤ) - 52 := by
    simp only [Format.targetExponent, totalExponent, Format.mantissaBits, Format.minExponent]
    norm_num
    omega
  have amount : (0 - ((n.log2 : ℤ) - 52)).toNat = 52 - n.log2 := by omega
  have least : (0 : ℤ) - (52 - n.log2 : ℕ) = n.log2 - 52 := by omega
  have exact := full_exact (k := 0) bits.1 bits.2 (e := (n.log2 : ℤ) - 52) (by omega)
  unfold UnpackedFloat.ofNat UnpackedFloat.ofInt UnpackedFloat.normalize
  rw [Int.compare_eq_gt.mpr (by omega)]
  dsimp only
  rw [Int.toNat_natCast]
  unfold UnpackedFloat.round decreaseExponent
  dsimp only
  rw [target, amount, Nat.shiftLeft_eq, least]
  simpa using exact

theorem isFull_one : IsFull (Float.ofBits 0x3FF0000000000000) (2 ^ 52) (-52) :=
  ⟨by decide, by decide, by decide, rfl⟩

/-- **A whole number below 2^53 is kept exactly.** -/
theorem isFull_ofNat {n : ℕ} (pos : 0 < n) (bound : n < 2 ^ 53) :
    IsFull (Float.ofNat n) (n * 2 ^ (52 - n.log2)) (n.log2 - 52) := by
  have log : n.log2 < 53 := (Nat.log2_lt (Nat.ne_of_gt pos)).mpr bound
  have word : n.toUInt64.toNat = n := by
    simp
    omega
  have read : IsFull n.toUInt64.toFloat (n * 2 ^ (52 - n.log2)) (n.log2 - 52) := by
    show Full (Float.Model.pack (UnpackedFloat.ofNat Format.binary64 n.toUInt64.toNat)).unpack _ _
    rw [word]
    exact (full_ofNat pos bound).repack (by omega) (by omega)
  -- A whole number is read as a decimal without places, by multiplying with one.
  have unfolded : Float.ofNat n = n.toUInt64.toFloat * Float.ofBits 0x3FF0000000000000 := by
    show Float.ofScientific n false 0 = _
    unfold Float.ofScientific
    rw [dif_pos ⟨bound, by decide⟩]
    rfl
  obtain ⟨low, high, _, eq⟩ := read
  obtain ⟨-, -, _, eqOne⟩ := isFull_one
  have exact := full_exact (k := 52) low high (e := (n.log2 : ℤ) - 52 + -52) (by omega)
  have back : (n.log2 : ℤ) - 52 + -52 + (52 : ℕ) = n.log2 - 52 := by omega
  rw [back] at exact
  rw [unfolded]
  show Full (Float.Model.pack (UnpackedFloat.mul Format.binary64 _ _)).unpack _ _
  rw [eq, eqOne]
  exact exact.repack (by omega) (by omega)

end FlowAudit.Number
