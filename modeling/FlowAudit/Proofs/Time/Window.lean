import FlowAudit.Proofs.Time.Order

/-!
# FlowAudit.Proofs.Time.Window

**How far back a window reaches.** `Ago` says which instant lies a number of nanoseconds before another,
by counting and without a word of spans. A window of whole seconds begins there if there is such an
instant, and else with the calendar (`secondsBack_opens`). Some numbers of seconds are more than a span
can hold; a window of that length begins with the calendar too, which is where it would begin if spans
had no end (`secondsBack_of_ofSeconds?`). So a longer window never begins later (`secondsBack_antitone`),
whatever the two lengths are.
-/

namespace FlowAudit.Instant

/-! ### Places in the order -/

/-- Instants in the same place are one instant. -/
theorem key_inj {a b : Instant} (same : a.key = b.key) : a = b := by
  obtain ⟨day, ⟨second, boundS⟩, ⟨nano, boundN⟩⟩ := a
  obtain ⟨day', ⟨second', boundS'⟩, ⟨nano', boundN'⟩⟩ := b
  simp only [key, secondsPerDay] at same
  obtain ⟨rfl, rfl, rfl⟩ : day = day' ∧ second = second' ∧ nano = nano' := by omega
  rfl

theorem le_antisymm {a b : Instant} (h : a ≤ b) (h' : b ≤ a) : a = b :=
  key_inj (Int.le_antisymm h h')

/-- Outside of leap seconds the order is that of the counts. -/
theorem le_iff_unixNanos {a b : Instant} (plain : a.nano.val < 1000000000)
    (plain' : b.nano.val < 1000000000) : a ≤ b ↔ a.unixNanos ≤ b.unixNanos := by
  rw [le_iff_key, key_eq, key_eq]
  unfold Instant.unixNanos
  omega

theorem eq_of_unixNanos {a b : Instant} (plain : a.nano.val < 1000000000)
    (plain' : b.nano.val < 1000000000) (same : a.unixNanos = b.unixNanos) : a = b :=
  le_antisymm ((le_iff_unixNanos plain plain').mpr (Int.le_of_eq same))
    ((le_iff_unixNanos plain' plain).mpr (Int.le_of_eq same.symm))

/-- The calendar, counted in nanoseconds; the last leap second runs over its end. -/
theorem unixNanos_bounds {t : Instant} (calendar : t.InCalendar) :
    firstNano ≤ t.unixNanos ∧ t.unixNanos < endNano + 1000000000 := by
  obtain ⟨first, last⟩ := calendar
  have second := t.second.isLt
  have nano := t.nano.isLt
  have unix : t.unixSeconds = t.day * 86400 + t.second.val := rfl
  unfold unixNanos firstNano endNano
  omega

theorem earliest_le {t : Instant} (calendar : t.InCalendar) : earliest ≤ t := by
  have first := calendar.1
  have unix : t.unixSeconds = t.day * 86400 + t.second.val := rfl
  rw [le_iff_key, key_earliest, key_eq, unix]
  unfold keyOfNanos firstNano
  omega

/-! ### Some time ago -/

/-- An instant of the calendar lies a number of nanoseconds before another. A leap second before `now`
is passed over like any other second, and none is stopped in. -/
def Ago (t now : Instant) (nanos : Int) : Prop :=
  t.InCalendar ∧
    if nanos = 0 then t = now else t.nano.val < 1000000000 ∧ t.unixNanos = now.unixNanos - nanos

instance (t now : Instant) (nanos : Int) : Decidable (t.Ago now nanos) :=
  inferInstanceAs (Decidable (_ ∧ _))

theorem Ago.unixNanos {t now : Instant} {nanos : Int} (ago : t.Ago now nanos) :
    t.unixNanos = now.unixNanos - nanos := by
  obtain ⟨-, ago⟩ := ago
  by_cases none : nanos = 0
  · rw [if_pos none] at ago
    rw [ago, none, Int.sub_zero]
  · rw [if_neg none] at ago
    exact ago.2

/-- At most one instant lies a number of nanoseconds before another. -/
theorem Ago.unique {t t' now : Instant} {nanos : Int} (ago : t.Ago now nanos)
    (ago' : t'.Ago now nanos) : t = t' := by
  obtain ⟨-, ago⟩ := ago
  obtain ⟨-, ago'⟩ := ago'
  by_cases none : nanos = 0
  · rw [if_pos none] at ago ago'
    rw [ago, ago']
  · rw [if_neg none] at ago ago'
    exact eq_of_unixNanos ago.1 ago'.1 (ago.2.trans ago'.2.symm)

/-- A window that ends at `now` and is a number of nanoseconds long begins that time ago, if there is
such an instant, and else with the calendar. -/
def Opens (start now : Instant) (nanos : Int) : Prop :=
  start.Ago now nanos ∨ start = earliest ∧ ∀ t, ¬ Ago t now nanos

theorem Opens.eq_of_ago {start now t : Instant} {nanos : Int} (opens : start.Opens now nanos)
    (ago : t.Ago now nanos) : start = t := by
  rcases opens with found | ⟨-, none⟩
  · exact found.unique ago
  · exact absurd ago (none t)

theorem Opens.eq_earliest {start now : Instant} {nanos : Int} (opens : start.Opens now nanos)
    (none : ∀ t, ¬ Ago t now nanos) : start = earliest := by
  rcases opens with found | ⟨first, -⟩
  · exact absurd found (none start)
  · exact first

theorem Opens.inCalendar {start now : Instant} {nanos : Int} (opens : start.Opens now nanos) :
    start.InCalendar := by
  rcases opens with found | ⟨first, -⟩
  · exact found.1
  · rw [first]
    decide

/-! ### Instants by their count -/

/-- What is found by counting has that count, in the calendar and outside of leap seconds. -/
theorem of_ofUnixNanos {nanos : Int} {t : Instant} (found : ofUnixNanos? nanos = some t) :
    t.InCalendar ∧ t.nano.val < 1000000000 ∧ t.unixNanos = nanos := by
  unfold ofUnixNanos? at found
  dsimp only at found
  split at found
  case isFalse => cases found
  case isTrue days =>
    rw [Bool.and_eq_true, decide_eq_true_iff, decide_eq_true_iff] at days
    cases found
    refine ⟨days, ?_, ?_⟩
    · simp [onDay, Fin.ofNat, Span.nanosPerSecond]
      omega
    · simp [unixNanos, unixSeconds, onDay, Fin.ofNat, Span.nanosPerSecond, secondsPerDay]
      omega

/-- **Every count within the calendar is that of an instant** outside of leap seconds. -/
theorem exists_ofUnixNanos {nanos : Int} (first : firstNano ≤ nanos) (last : nanos < endNano) :
    ∃ t, ofUnixNanos? nanos = some t ∧ t.InCalendar ∧ t.nano.val < 1000000000 ∧
      t.unixNanos = nanos := by
  obtain ⟨t, found, -⟩ := key_ofUnixNanos first last
  exact ⟨t, found, of_ofUnixNanos found⟩

/-! ### Windows of whole seconds -/

theorem windowStart_zero {now : Instant} (calendar : now.InCalendar) :
    now.windowStart ⟨0⟩ = now := by
  obtain ⟨first, last⟩ := calendar
  have second := now.second.isLt
  have unix : now.unixSeconds = now.day * 86400 + now.second.val := rfl
  have nanos : now.unixNanos = now.unixSeconds * 1000000000 + now.nano.val := rfl
  refine key_inj ?_
  have nonneg : 0 ≤ (⟨0⟩ : Span).nanos := Int.le_refl 0
  rcases minus?_cases now nonneg with ⟨plain, counted⟩ | ⟨-, u, found, place⟩
  · have plain : now.nano.val < 1000000000 := plain.resolve_right (by decide)
    dsimp only at counted
    rw [key_windowStart counted (by unfold endNano; omega),
      Int.max_eq_right (by unfold firstNano; omega), Int.sub_zero, nanos, key_eq]
    unfold keyOfNanos
    omega
  · rw [windowStart, found, Option.getD_some, place]
    exact Int.sub_zero _

/-- **A window begins that time ago, or with the calendar.** Within a leap second this is only so for
windows that are not shorter than a second. -/
theorem windowStart_opens {now : Instant} (calendar : now.InCalendar) {nanos : Int}
    (nonneg : 0 ≤ nanos)
    (plain : now.nano.val < 1000000000 ∨ nanos = 0 ∨ 1000000000 ≤ nanos) :
    (now.windowStart ⟨nanos⟩).Opens now nanos := by
  by_cases none : nanos = 0
  · subst none
    rw [windowStart_zero calendar]
    exact Or.inl ⟨calendar, (if_pos rfl).mpr rfl⟩
  have last : now.unixNanos - nanos < endNano := by
    have bound := (unixNanos_bounds calendar).2
    have day := calendar.2
    have second := now.second.isLt
    have unix : now.unixSeconds = now.day * 86400 + now.second.val := rfl
    unfold unixNanos endNano at *
    omega
  have counted : now.minus? ⟨nanos⟩ = ofUnixNanos? (now.unixNanos - nanos) := by
    have nonneg : 0 ≤ (⟨nanos⟩ : Span).nanos := nonneg
    rcases minus?_cases now nonneg with ⟨-, counted⟩ | ⟨leap, -⟩
    · exact counted
    · dsimp only at leap
      omega
  rw [windowStart, counted]
  by_cases first : firstNano ≤ now.unixNanos - nanos
  · obtain ⟨t, found, calendar', plain, place⟩ := exists_ofUnixNanos first last
    rw [found, Option.getD_some]
    refine Or.inl ⟨calendar', ?_⟩
    rw [if_neg none]
    exact ⟨plain, place⟩
  · rw [ofUnixNanos_of_lt (by omega), Option.getD_none]
    refine Or.inr ⟨rfl, fun t ago => first ?_⟩
    rw [← ago.unixNanos]
    exact (unixNanos_bounds ago.1).1

/-- The beginning of a window of whole seconds, as long as spans would reach. -/
def secondsBack (now : Instant) (seconds : Int) : Instant :=
  now.windowStart ⟨seconds * 1000000000⟩

/-- **A window of whole seconds begins that time ago, or with the calendar.** -/
theorem secondsBack_opens {now : Instant} (calendar : now.InCalendar) {seconds : Int}
    (nonneg : 0 ≤ seconds) : (now.secondsBack seconds).Opens now (seconds * 1000000000) :=
  windowStart_opens calendar (by omega) (by omega)

/-- **A longer window begins no later.** -/
theorem secondsBack_antitone {now : Instant} (calendar : now.InCalendar) {few many : Int}
    (nonneg : 0 ≤ few) (order : few ≤ many) : now.secondsBack many ≤ now.secondsBack few := by
  rcases Int.lt_or_eq_of_le order with less | rfl
  · refine windowStart_le_windowStart (le_refl now) calendar ?_ ?_ (Or.inr ?_) <;>
      dsimp only <;> omega
  · exact le_refl _

/-- **Where a span is not long enough the window begins with the calendar anyway.** -/
theorem secondsBack_of_ofSeconds? {now : Instant} (calendar : now.InCalendar) {seconds : Int}
    (nonneg : 0 ≤ seconds) :
    (match Span.ofSeconds? seconds with
      | some span => now.windowStart span
      | none => earliest) = now.secondsBack seconds := by
  unfold Span.ofSeconds?
  by_cases fits : seconds.natAbs ≤ (Span.maxMillis / 1000).toNat
  · rw [if_pos fits]
    rfl
  · rw [if_neg fits]
    rcases secondsBack_opens calendar nonneg with ago | ⟨start, -⟩
    · -- The calendar spans far fewer seconds.
      have within := unixNanos_bounds calendar
      have found := (unixNanos_bounds ago.1).1
      rw [ago.unixNanos] at found
      have limit : (Span.maxMillis / 1000).toNat = 9223372036854775 := by decide
      have first : firstNano = -8334601228800000000000 := by decide
      have last : endNano = 8210266876800000000000 := by decide
      omega
    · exact start.symm

end FlowAudit.Instant
