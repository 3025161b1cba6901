import FlowAudit.Proofs.Number.Comparison
import FlowAudit.Proofs.Number.Mantissa

/-!
# FlowAudit.Proofs.Number.Quotient

**A ratio of whole numbers compares as its exact value does**, as far as the floating-point numbers can
tell. `Nearby` says that between an exact number and the one that stands in for it there is no other.
Rounding to whole units gives such a stand-in (`nearby_of_units`), and so does a division of whole numbers
(`isFull_ratio`). So a ratio is not above a bound that is at least its exact value (`Nearby.not_lt`), and it
is above one if its exact value is at least the next number after the bound (`Nearby.lt`).
-/

namespace FlowAudit.Number

open Float.Model Float.Model.UnpackedFloat

/-- A number with a full mantissa that stands in for an exact one: no number with a full mantissa lies
beyond the one and short of the other. -/
def Nearby (x : ℚ) (m : ℕ) (e : ℤ) : Prop :=
  ∀ (w : ℕ) (f : ℤ), 2 ^ 52 ≤ w → w < 2 ^ 53 →
    (x ≤ w * 2 ^ f → e < f ∨ e = f ∧ m ≤ w) ∧ (w * 2 ^ f ≤ x → f < e ∨ f = e ∧ w ≤ m)

/-! ### Rounding -/

/-- Among full mantissas the greater number has no smaller exponent. -/
theorem exponent_le_of_le {w : ℕ} (high : w < 2 ^ 53) {f g : ℤ}
    (le : (2 : ℚ) ^ 52 * 2 ^ g ≤ w * 2 ^ f) : g ≤ f := by
  by_contra less
  have mantissa : (w : ℚ) < 2 ^ 53 := by exact_mod_cast high
  have step : (2 : ℚ) ^ (f + 1) ≤ 2 ^ g := zpow_le_zpow_right₀ (by norm_num) (by omega)
  have beyond : (w : ℚ) * 2 ^ f < 2 ^ 52 * 2 ^ g := calc
    (w : ℚ) * 2 ^ f < 2 ^ 53 * 2 ^ f := mul_lt_mul_of_pos_right mantissa (by positivity)
    _ = 2 ^ 52 * 2 ^ (f + 1) := by rw [zpow_add_one₀ (by norm_num)]; ring
    _ ≤ 2 ^ 52 * 2 ^ g := mul_le_mul_of_nonneg_left step (by norm_num)
  exact absurd le (not_le.mpr beyond)

theorem exponent_le_of_lt {w : ℕ} (low : 2 ^ 52 ≤ w) {f g : ℤ}
    (less : (w : ℚ) * 2 ^ f < 2 ^ 53 * 2 ^ g) : f ≤ g := by
  by_contra further
  have mantissa : (2 : ℚ) ^ 52 ≤ w := by exact_mod_cast low
  have step : (2 : ℚ) ^ (g + 1) ≤ 2 ^ f := zpow_le_zpow_right₀ (by norm_num) (by omega)
  have beyond : (2 : ℚ) ^ 53 * 2 ^ g ≤ w * 2 ^ f := calc
    (2 : ℚ) ^ 53 * 2 ^ g = 2 ^ 52 * 2 ^ (g + 1) := by rw [zpow_add_one₀ (by norm_num)]; ring
    _ ≤ 2 ^ 52 * 2 ^ f := mul_le_mul_of_nonneg_left step (by norm_num)
    _ ≤ w * 2 ^ f := mul_le_mul_of_nonneg_right mantissa (by positivity)
  exact absurd less (not_lt.mpr beyond)

/-- **What passes no whole number of units passes no number with a full mantissa.** With other exponents
these are whole numbers of units too, or outside of the range where the number lies. -/
theorem nearby_of_units {x : ℚ} {g : ℤ} {r : ℕ} (low : 2 ^ 52 * 2 ^ g ≤ x) (high : x < 2 ^ 53 * 2 ^ g)
    (above : ∀ w : ℕ, x ≤ w * 2 ^ g → r ≤ w) (below : ∀ w : ℕ, w * 2 ^ g ≤ x → w ≤ r) :
    (r < 2 ^ 53 → Nearby x r g) ∧ (r = 2 ^ 53 → Nearby x (2 ^ 52) (g + 1)) := by
  refine ⟨fun _ w f wLow wHigh => ⟨fun le => ?_, fun le => ?_⟩,
    fun carry w f wLow wHigh => ⟨fun le => ?_, fun le => ?_⟩⟩
  · rcases (exponent_le_of_le wHigh (low.trans le)).lt_or_eq with further | rfl
    · exact Or.inl further
    · exact Or.inr ⟨rfl, above w le⟩
  · rcases (exponent_le_of_lt wLow (lt_of_le_of_lt le high)).lt_or_eq with nearer | rfl
    · exact Or.inl nearer
    · exact Or.inr ⟨rfl, below w le⟩
  -- Rounded up to a power of two, which is the least number with the next exponent.
  · rcases (exponent_le_of_le wHigh (low.trans le)).lt_or_eq with further | rfl
    · rcases (Int.add_one_le_iff.mpr further).lt_or_eq with beyond | same
      · exact Or.inl beyond
      · exact Or.inr ⟨same, wLow⟩
    · have least := above w le
      omega
  · have nearer := exponent_le_of_lt wLow (lt_of_le_of_lt le high)
    exact Or.inl (by omega)

/-- **Rounding a quotient passes no number with a full mantissa.** -/
theorem exists_nearby {num den k : ℕ} (pos : 0 < den) (log : (num / den).log2 = 52 + k) {e : ℤ}
    (least : -1074 ≤ e) :
    ∃ m g, Full (roundWithAccuracy Format.binary64 .positive (num / den) e
        (accuracyOfFraction (num % den) den)) m g ∧
      Nearby ((num : ℚ) / den * 2 ^ e) m g ∧ e + k ≤ g ∧ g ≤ e + k + 1 := by
  have some_bits : num / den ≠ 0 := by
    intro zero
    rw [zero, Nat.log2_zero] at log
    omega
  have bits := (Nat.log2_eq_iff some_bits).mp log
  have unit : 0 < den * 2 ^ k := Nat.mul_pos pos (Nat.two_pow_pos k)
  have low : 2 ^ 52 * (den * 2 ^ k) ≤ num := by
    have whole := (Nat.le_div_iff_mul_le pos).mp bits.1
    rwa [Nat.pow_add, Nat.mul_assoc, Nat.mul_comm (2 ^ k)] at whole
  have high : num < 2 ^ 53 * (den * 2 ^ k) := by
    have whole := (Nat.div_lt_iff_lt_mul pos).mp bits.2
    rwa [Nat.add_right_comm, Nat.pow_add, Nat.mul_assoc, Nat.mul_comm (2 ^ k)] at whole
  -- In units of the last bit that is kept.
  have positive : (0 : ℚ) < 2 ^ (e + k) := by positivity
  have unitPos : (0 : ℚ) < (den * 2 ^ k : ℕ) := by exact_mod_cast unit
  have scaled : (num : ℚ) / den * 2 ^ e = num / (den * 2 ^ k : ℕ) * 2 ^ (e + k) := by
    rw [zpow_add₀ (by norm_num), zpow_natCast]
    push_cast
    field_simp
  have le_iff (w : ℕ) :
      (num : ℚ) / den * 2 ^ e ≤ w * 2 ^ (e + k) ↔ num ≤ w * (den * 2 ^ k) := by
    rw [scaled, mul_le_mul_iff_left₀ positive, div_le_iff₀ unitPos]
    exact_mod_cast Iff.rfl
  have ge_iff (w : ℕ) :
      w * 2 ^ (e + k) ≤ (num : ℚ) / den * 2 ^ e ↔ w * (den * 2 ^ k) ≤ num := by
    rw [scaled, mul_le_mul_iff_left₀ positive, le_div_iff₀ unitPos]
    exact_mod_cast Iff.rfl
  have lowest := (ge_iff (2 ^ 52)).mpr low
  have highest := not_le.mp (mt (ge_iff (2 ^ 53)).mp (not_le.mpr high))
  push_cast at lowest highest
  have full : 2 ^ 52 ≤ roundedQuotient num den k := le_roundedQuotient pos low
  have most : roundedQuotient num den k ≤ 2 ^ 53 := roundedQuotient_le pos high.le
  have rounded := full_roundWithAccuracy log least rfl full
  have nearby := nearby_of_units lowest highest
    (fun w le => roundedQuotient_le pos ((le_iff w).mp le))
    (fun w le => le_roundedQuotient pos ((ge_iff w).mp le))
  rcases most.lt_or_eq with less | carry
  · exact ⟨_, _, rounded.1 less, nearby.1 less, by omega, by omega⟩
  · exact ⟨_, _, rounded.2 carry, nearby.2 carry, by omega, by omega⟩

/-! ### Division -/

/-- **A quotient of numbers with full mantissas stands in for the exact one.** -/
theorem isFull_div {x y : Float} {m m' : ℕ} {e e' : ℤ} (dividend : IsFull x m e)
    (divisor : IsFull y m' e') (least : -1021 ≤ e - e') (most : e - e' ≤ 1022) :
    ∃ w f, IsFull (x / y) w f ∧ Nearby (m * 2 ^ e / (m' * 2 ^ e')) w f := by
  obtain ⟨low, high, pos, eq⟩ := dividend
  obtain ⟨low', high', pos', eq'⟩ := divisor
  have target : min (e - e')
      (Format.binary64.targetExponent (totalExponent m e - totalExponent m' e')) = e - e' - 53 := by
    simp only [Format.targetExponent, totalExponent, Format.mantissaBits, Format.minExponent,
      log2_of_full low high, log2_of_full low' high']
    norm_num
    omega
  have amount : (e - e' - (e - e' - 53)).toNat = 53 := by omega
  have core : divCore Format.binary64 m e m' e' =
      (m * 2 ^ 53 / m', e - e' - 53, accuracyOfFraction (m * 2 ^ 53 % m') m') := by
    unfold divCore
    rw [target]
    dsimp only
    rw [amount, Nat.shiftLeft_eq]
  -- The quotient has one bit to spare or none.
  obtain ⟨k, log, spare⟩ : ∃ k, (m * 2 ^ 53 / m').log2 = 52 + k ∧ k ≤ 1 := by
    have lower : 2 ^ 52 ≤ m * 2 ^ 53 / m' := (Nat.le_div_iff_mul_le pos').mpr (by omega)
    have upper : m * 2 ^ 53 / m' < 2 ^ 54 := (Nat.div_lt_iff_lt_mul pos').mpr (by omega)
    have first := (Nat.le_log2 (by omega)).mpr lower
    have last := (Nat.log2_lt (by omega)).mpr upper
    exact ⟨(m * 2 ^ 53 / m').log2 - 52, by omega, by omega⟩
  have value : (m * 2 ^ 53 : ℕ) / (m' : ℚ) * 2 ^ (e - e' - 53) = m * 2 ^ e / (m' * 2 ^ e') := by
    have divides : (m' : ℚ) ≠ 0 := by exact_mod_cast pos'.ne'
    rw [zpow_sub₀ (by norm_num), zpow_sub₀ (by norm_num)]
    push_cast
    field_simp
  have least' : -1074 ≤ e - e' - 53 := by omega
  obtain ⟨w, f, full, nearby, fLow, fHigh⟩ := exists_nearby pos' log least'
  rw [value] at nearby
  have divided : UnpackedFloat.div Format.binary64 (.finite .positive m e pos)
      (.finite .positive m' e' pos') = roundWithAccuracy Format.binary64 .positive
        (m * 2 ^ 53 / m') (e - e' - 53) (accuracyOfFraction (m * 2 ^ 53 % m') m') := by
    unfold UnpackedFloat.div
    dsimp only
    rw [core]
    rfl
  refine ⟨w, f, ?_, nearby⟩
  show Full (Float.Model.pack (UnpackedFloat.div Format.binary64 _ _)).unpack w f
  rw [eq, eq', divided]
  exact full.repack (by omega) (by omega)

theorem ofNat_value {n : ℕ} (pos : 0 < n) (bound : n < 2 ^ 53) :
    ((n * 2 ^ (52 - n.log2) : ℕ) : ℚ) * 2 ^ ((n.log2 : ℤ) - 52) = n := by
  have log : n.log2 < 53 := (Nat.log2_lt (Nat.ne_of_gt pos)).mpr bound
  have back : (n.log2 : ℤ) - 52 = -((52 - n.log2 : ℕ) : ℤ) := by omega
  rw [back, zpow_neg, zpow_natCast]
  push_cast
  field_simp

/-- **A ratio of whole numbers stands in for the exact one.** -/
theorem isFull_ratio {parts unit : ℕ} (some_parts : 0 < parts) (few : parts < 2 ^ 53)
    (pos : 0 < unit) (small : unit < 2 ^ 53) :
    ∃ m e, IsFull (Scalar.ratio parts unit) m e ∧ Nearby (parts / unit) m e := by
  have logParts : parts.log2 < 53 := (Nat.log2_lt (Nat.ne_of_gt some_parts)).mpr few
  have logUnit : unit.log2 < 53 := (Nat.log2_lt (Nat.ne_of_gt pos)).mpr small
  have divided := isFull_div (isFull_ofNat some_parts few) (isFull_ofNat pos small)
    (by omega) (by omega)
  rwa [ofNat_value some_parts few, ofNat_value pos small] at divided

theorem unpack_ratio_zero {unit : ℕ} (pos : 0 < unit) (small : unit < 2 ^ 53) :
    (Scalar.ratio 0 unit : Float).toModel.unpack = .zero .positive := by
  obtain ⟨-, -, _, eq⟩ := isFull_ofNat pos small
  have zero : (Float.ofNat 0).toModel.unpack = .zero .positive := rfl
  show (Float.Model.pack (UnpackedFloat.div Format.binary64 (Float.ofNat 0).toModel.unpack
    (Float.ofNat unit).toModel.unpack)).unpack = _
  rw [zero, eq]
  show (Float.Model.pack (.zero .positive)).unpack = _
  rfl

/-! ### Comparing with a bound -/

theorem IsFull.place {x : Float} {m : ℕ} {e : ℤ} (full : IsFull x m e) :
    place x.toModel.unpack = some (toLex (1, toLex (e, (m : ℤ)))) := by
  obtain ⟨-, -, _, eq⟩ := full
  rw [eq]
  rfl

theorem IsFull.lt_iff {x y : Float} {m w : ℕ} {e f : ℤ} (first : IsFull x m e)
    (second : IsFull y w f) : Scalar.lt x y ↔ e < f ∨ e = f ∧ m < w := by
  rw [lt_iff_place, first.place, second.place]
  simp [Prod.Lex.toLex_lt_toLex]

variable {x y : Float} {v : ℚ} {m w : ℕ} {e f : ℤ}

/-- **What stands in for an exact number is not above what the exact number is not above.** -/
theorem Nearby.not_lt (nearby : Nearby v m e) (rounded : IsFull x m e) (bound : IsFull y w f)
    (le : v ≤ w * 2 ^ f) : ¬ Scalar.lt y x := by
  rw [bound.lt_iff rounded]
  have order := (nearby w f bound.low bound.high).1 le
  omega

/-- **What stands in for an exact number is above a bound if the exact number reaches the next one.** -/
theorem Nearby.lt (nearby : Nearby v m e) (rounded : IsFull x m e) (bound : IsFull y w f)
    (next : w + 1 < 2 ^ 53) (le : (w + 1 : ℕ) * 2 ^ f ≤ v) : Scalar.lt y x := by
  rw [bound.lt_iff rounded]
  have low := bound.low
  have order := (nearby (w + 1) f (by omega) next).2 le
  omega

end FlowAudit.Number
