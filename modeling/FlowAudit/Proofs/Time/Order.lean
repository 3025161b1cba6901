import FlowAudit.Time.Instant

/-!
# FlowAudit.Proofs.Time.Order

**Instants in their order.** Instants are ordered by day, second and nanosecond, and the nanoseconds of
a leap second run on past a whole second. Differences do not follow that order: `unixNanos` runs on
through a leap second and falls back behind it. So two things that hold of plain numbers need a proof,
and have exceptions.

* A window that ends later and is not longer begins no earlier (`windowStart_le_windowStart`), unless
  the earlier one ends in a leap second and is less than a second longer.
* Instants that are a time apart each are at least that time apart in all (`le_since_of_le`), if the time
  is a whole second or more. For no time at all the leap seconds have to be the last of their minutes,
  as all leap seconds are that can be read.
-/

namespace FlowAudit.Instant

/-! ### The order -/

theorem le_iff_key {a b : Instant} : a ≤ b ↔ a.key ≤ b.key := Iff.rfl

theorem le_refl (a : Instant) : a ≤ a := Int.le_refl a.key

theorem le_trans {a b c : Instant} (h : a ≤ b) (h' : b ≤ c) : a ≤ c := Int.le_trans h h'

theorem not_lt {a b : Instant} : ¬ a < b ↔ b ≤ a := Int.not_lt

theorem lt_of_lt_of_le {a b c : Instant} (h : a < b) (h' : b ≤ c) : a < c := Int.lt_of_lt_of_le h h'

theorem between_iff {t low high : Instant} : t.between low high ↔ low ≤ t ∧ t ≤ high := by
  rw [between, Bool.and_eq_true, decide_eq_true_iff, decide_eq_true_iff]

/-! ### Counting nanoseconds -/

/-- Nanoseconds since 1970 began, where those of a leap second count as those of the next one too. -/
def unixNanos (t : Instant) : Int :=
  t.unixSeconds * 1000000000 + t.nano.val

theorem key_eq (t : Instant) : t.key = t.unixSeconds * 2000000000 + t.nano.val := rfl

/-- The first nanosecond of the calendar. -/
def firstNano : Int := firstDay * 86400 * 1000000000

/-- The first nanosecond after the calendar. -/
def endNano : Int := (lastDay + 1) * 86400 * 1000000000

/-- The place in the order that a count of nanoseconds has. -/
def keyOfNanos (nanos : Int) : Int :=
  nanos + nanos / 1000000000 * 1000000000

theorem keyOfNanos_mono {a b : Int} (h : a ≤ b) : keyOfNanos a ≤ keyOfNanos b := by
  unfold keyOfNanos
  omega

theorem key_earliest : earliest.key = keyOfNanos firstNano := by
  decide

/-- A count of nanoseconds within the calendar is that of an instant, in its place. -/
theorem key_ofUnixNanos {nanos : Int} (first : firstNano ≤ nanos) (last : nanos < endNano) :
    ∃ t, ofUnixNanos? nanos = some t ∧ t.key = keyOfNanos nanos := by
  have days : firstDay ≤ nanos / 1000000000 / 86400 ∧ nanos / 1000000000 / 86400 ≤ lastDay := by
    unfold firstNano at first
    unfold endNano at last
    omega
  refine ⟨onDay (nanos / 1000000000 / 86400) (nanos / 1000000000 % 86400).toNat
    (nanos % 1000000000).toNat, ?_, ?_⟩
  · unfold ofUnixNanos?
    refine if_pos ?_
    rw [Bool.and_eq_true, decide_eq_true_iff, decide_eq_true_iff]
    exact days
  · have second : ((onDay (nanos / 1000000000 / 86400) (nanos / 1000000000 % 86400).toNat
        (nanos % 1000000000).toNat).second.val : Int) = nanos / 1000000000 % 86400 := by
      simp [onDay, Fin.ofNat]
      omega
    have nano : ((onDay (nanos / 1000000000 / 86400) (nanos / 1000000000 % 86400).toNat
        (nanos % 1000000000).toNat).nano.val : Int) = nanos % 1000000000 := by
      simp [onDay, Fin.ofNat]
      omega
    rw [key, second, nano]
    simp only [onDay, secondsPerDay, keyOfNanos]
    omega

/-- Before the calendar there is no instant. -/
theorem ofUnixNanos_of_lt {nanos : Int} (early : nanos < firstNano) : ofUnixNanos? nanos = none := by
  have day : ¬ firstDay ≤ nanos / 1000000000 / 86400 := by
    unfold firstNano at early
    omega
  unfold ofUnixNanos?
  refine if_neg ?_
  rw [Bool.and_eq_true, decide_eq_true_iff, decide_eq_true_iff]
  exact fun days => day days.1

/-! ### Windows -/

/-- An instant of the calendar. -/
def InCalendar (t : Instant) : Prop :=
  firstDay ≤ t.day ∧ t.day ≤ lastDay

instance (t : Instant) : Decidable t.InCalendar :=
  inferInstanceAs (Decidable (_ ∧ _))

/-- **Going back in time is counting back**, except that a step of less than a second from within a
leap second stays in it or comes into the second before. -/
theorem minus?_cases (t : Instant) {span : Span} (nonneg : 0 ≤ span.nanos) :
    ((t.nano.val < 1000000000 ∨ 1000000000 ≤ span.nanos) ∧
        t.minus? span = ofUnixNanos? (t.unixNanos - span.nanos)) ∨
      (1000000000 ≤ t.nano.val ∧ span.nanos < 1000000000) ∧
        ∃ u, t.minus? span = some u ∧ u.key = t.key - span.nanos := by
  have seconds : (-span.nanos).tdiv (Span.nanosPerSecond : Int) = -(span.nanos / 1000000000) := by
    rw [Int.neg_tdiv, Int.tdiv_eq_ediv_of_nonneg nonneg]
    rfl
  have rest : (-span.nanos).tmod (Span.nanosPerSecond : Int) = -(span.nanos % 1000000000) := by
    rw [Int.neg_tmod, Int.tmod_eq_emod_of_nonneg nonneg]
    rfl
  have counted : ∀ unix nano : Int, unix * 1000000000 + nano = t.unixNanos →
      ofUnixNanos? (unix * Span.nanosPerSecond + nano + -span.nanos) =
        ofUnixNanos? (t.unixNanos - span.nanos) := by
    intro unix nano same
    rw [← same]
    rfl
  unfold minus? plus?
  dsimp only
  rw [seconds, rest]
  by_cases leap : t.nano.val < 1000000000
  · rw [if_pos (by exact_mod_cast leap)]
    exact Or.inl ⟨Or.inl leap, counted _ _ rfl⟩
  · rw [if_neg (by exact_mod_cast leap), if_neg (by simp; omega)]
    by_cases long : span.nanos < 1000000000
    · rw [if_neg (by omega)]
      refine Or.inr ⟨⟨by omega, long⟩, _, rfl, ?_⟩
      have nano : ((Fin.ofNat 2000000000 ((t.nano.val : Int) + -(span.nanos % 1000000000)).toNat).val
          : Int) = t.nano.val - span.nanos := by
        have bound := t.nano.isLt
        simp only [Fin.ofNat]
        omega
      show t.unixSeconds * 2000000000 + _ = t.unixSeconds * 2000000000 + t.nano.val - span.nanos
      rw [nano]
      omega
    · rw [if_pos (by omega)]
      exact Or.inl ⟨Or.inr (by omega), counted _ _ (by unfold unixNanos; omega)⟩

/-- Where a window begins that is found by counting back from its end. -/
theorem key_windowStart {now : Instant} {window : Span} {nanos : Int}
    (counted : now.minus? window = ofUnixNanos? nanos) (last : nanos < endNano) :
    (now.windowStart window).key = keyOfNanos (max firstNano nanos) := by
  unfold windowStart
  rw [counted]
  by_cases first : firstNano ≤ nanos
  · obtain ⟨t, found, place⟩ := key_ofUnixNanos first last
    rw [found, Int.max_eq_right first]
    exact place
  · rw [ofUnixNanos_of_lt (by omega), Int.max_eq_left (by omega)]
    exact key_earliest

/-- No window begins before the calendar does. -/
theorem earliest_le_windowStart {now : Instant} {window : Span} (calendar : now.InCalendar)
    (nonneg : 0 ≤ window.nanos) : earliest ≤ now.windowStart window := by
  obtain ⟨first, last⟩ := calendar
  have bound := now.nano.isLt
  have second := now.second.isLt
  have unix : now.unixSeconds = now.day * 86400 + now.second.val := rfl
  have nanos : now.unixNanos = now.unixSeconds * 1000000000 + now.nano.val := rfl
  rw [le_iff_key, key_earliest]
  rcases minus?_cases now nonneg with ⟨whole, counted⟩ | ⟨⟨leap, short⟩, u, found, place⟩
  · have within : now.unixNanos - window.nanos < endNano := by
      unfold endNano
      omega
    rw [key_windowStart counted within]
    exact keyOfNanos_mono (Int.le_max_left _ _)
  · rw [windowStart, found, Option.getD_some, place, key_eq]
    unfold keyOfNanos firstNano
    omega

/-- **A window that ends later and is not longer begins no earlier**, unless the earlier one ends in a
leap second and is less than a second longer. -/
theorem windowStart_le_windowStart {p q : Instant} {long short : Span} (order : p ≤ q)
    (calendar : q.InCalendar) (nonneg : 0 ≤ short.nanos) (longer : short.nanos ≤ long.nanos)
    (leap : p.nano.val < 1000000000 ∨ short.nanos + 1000000000 ≤ long.nanos) :
    p.windowStart long ≤ q.windowStart short := by
  obtain ⟨first, last⟩ := calendar
  rw [le_iff_key, key_eq, key_eq] at order
  have boundP := p.nano.isLt
  have boundQ := q.nano.isLt
  have secondQ := q.second.isLt
  have unixQ : q.unixSeconds = q.day * 86400 + q.second.val := rfl
  have nanosP : p.unixNanos = p.unixSeconds * 1000000000 + p.nano.val := rfl
  have nanosQ : q.unixNanos = q.unixSeconds * 1000000000 + q.nano.val := rfl
  rw [le_iff_key]
  rcases minus?_cases p (Int.le_trans nonneg longer) with ⟨-, countedP⟩ | ⟨⟨leapP, shortP⟩, -⟩
  · rcases minus?_cases q nonneg with ⟨wholeQ, countedQ⟩ | ⟨⟨leapQ, shortQ⟩, u, foundQ, keyQ⟩
    · have earlier : p.unixNanos - long.nanos ≤ q.unixNanos - short.nanos := by omega
      have withinQ : q.unixNanos - short.nanos < endNano := by
        unfold endNano
        omega
      rw [key_windowStart countedP (by omega), key_windowStart countedQ withinQ]
      exact keyOfNanos_mono (by omega)
    · -- The later window begins within a leap second or in the second before it.
      have start : q.windowStart short = u := by
        rw [windowStart, foundQ]
        rfl
      have withinP : p.unixNanos - long.nanos < endNano := by
        unfold endNano
        omega
      rw [key_windowStart countedP withinP, start, keyQ, key_eq]
      unfold keyOfNanos firstNano
      omega
  · -- The earlier window is too long to begin within a leap second.
    omega

/-! ### Distances -/

/-- A leap second, if the instant lies in one, is the last second of its minute. All leap seconds that
can be read from text are (`ofText?_leapEndsMinute`), but arithmetic would also go with others. -/
def LeapEndsMinute (t : Instant) : Prop :=
  1000000000 ≤ t.nano.val → t.second.val % 60 = 59

instance (t : Instant) : Decidable t.LeapEndsMinute :=
  inferInstanceAs (Decidable (_ → _))

/-- The seconds that a leap second adds to the distance of two instants or takes from it. -/
def leapBetween (later earlier : Instant) : Int :=
  if earlier.second.val < later.second.val ∧ 1000000000 ≤ earlier.nano.val then 1
  else if later.second.val < earlier.second.val ∧ 1000000000 ≤ later.nano.val then -1
  else 0

theorem since_nanos (later earlier : Instant) :
    (later.since earlier).nanos =
      later.unixNanos - earlier.unixNanos + leapBetween later earlier * 1000000000 := by
  have same : (if later.second > earlier.second && earlier.nano ≥ 1000000000 then (1 : Int)
      else if later.second < earlier.second && later.nano ≥ 1000000000 then -1 else 0) =
      leapBetween later earlier := by
    simp only [leapBetween, Bool.and_eq_true, decide_eq_true_eq]
    rfl
  unfold since
  dsimp only
  rw [same]
  unfold unixNanos
  simp only [Span.nanosPerSecond]
  omega

/-- Distances add up, but for a second. -/
theorem since_add_since_le (a b c : Instant) :
    (a.since b).nanos + (b.since c).nanos ≤ (a.since c).nanos + 1000000000 := by
  have leaps : leapBetween a b + leapBetween b c ≤ leapBetween a c + 1 := by
    unfold leapBetween
    split <;> split <;> split <;> omega
  rw [since_nanos, since_nanos, since_nanos]
  omega

/-- The place of an instant in the order that distances follow. A leap second at the very end of a day
counts as the first second of the next one there, which it overlaps. -/
def rank (t : Instant) : Int :=
  if t.second.val = 86399 ∧ 1000000000 ≤ t.nano.val then t.key + 1000000000 else t.key

/-- Where all leap seconds end their minutes, no distance is negative that goes forward. -/
theorem since_nonneg_iff {a b : Instant} (ha : a.LeapEndsMinute) (hb : b.LeapEndsMinute) :
    0 ≤ (a.since b).nanos ↔ b.rank ≤ a.rank := by
  unfold LeapEndsMinute at ha hb
  have boundA := a.nano.isLt
  have boundB := b.nano.isLt
  have secondA := a.second.isLt
  have secondB := b.second.isLt
  have unixA : a.unixSeconds = a.day * 86400 + a.second.val := rfl
  have unixB : b.unixSeconds = b.day * 86400 + b.second.val := rfl
  have nanosA : a.unixNanos = a.unixSeconds * 1000000000 + a.nano.val := rfl
  have nanosB : b.unixNanos = b.unixSeconds * 1000000000 + b.nano.val := rfl
  rw [since_nanos, nanosA, nanosB, unixA, unixB]
  unfold rank leapBetween
  rw [key_eq, key_eq, unixA, unixB]
  -- Without a leap second the distance is that of two counts; with one, its second is known.
  by_cases leapA : 1000000000 ≤ a.nano.val
  · specialize ha leapA
    by_cases leapB : 1000000000 ≤ b.nano.val
    · specialize hb leapB
      simp only [leapA, leapB, and_true]
      omega
    · simp only [leapA, leapB, and_true, and_false, if_false]
      omega
  · by_cases leapB : 1000000000 ≤ b.nano.val
    · specialize hb leapB
      simp only [leapA, leapB, and_true, and_false, if_false]
      omega
    · simp only [leapA, leapB, and_false, if_false]
      omega

/-- **Instants that are a time apart each are at least that time apart in all.** -/
theorem le_since_of_le {a b c : Instant} {time : Int}
    (apart : 1000000000 ≤ time ∨
      time = 0 ∧ a.LeapEndsMinute ∧ b.LeapEndsMinute ∧ c.LeapEndsMinute)
    (hab : time ≤ (a.since b).nanos) (hbc : time ≤ (b.since c).nanos) :
    time ≤ (a.since c).nanos := by
  rcases apart with long | ⟨rfl, ha, hb, hc⟩
  · have sum := since_add_since_le a b c
    omega
  · rw [since_nonneg_iff ha hb] at hab
    rw [since_nonneg_iff hb hc] at hbc
    rw [since_nonneg_iff ha hc]
    exact Int.le_trans hbc hab

end FlowAudit.Instant
