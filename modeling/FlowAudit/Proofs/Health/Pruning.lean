import FlowAudit.Proofs.Health.Statistics
import FlowAudit.Proofs.Log.Expiry

/-!
# FlowAudit.Proofs.Health.Pruning

**What is removed is what no window to come reaches.** Removal of old records takes the stale rows out
of a table, and in a table of samples these are the oldest. `Keeps` relates the rows that are left to
all that were ever written: what is gone lies behind the others and is too old for all windows to come.
So a query that walks back from the newest row and stops at the first that is too old finds the same in
both (`Keeps.collectSamples_eq`).
-/

namespace FlowAudit

variable {ρ ν : Type}

/-! ### What is too old -/

/-- **No window to come begins before what is too old now ends.** -/
theorem retentionCutoff_le_windowStart {days : Int} {window : Span} {now later : Instant}
    (order : now ≤ later) (calendar : later.InCalendar) (nonneg : 0 ≤ window.nanos)
    (spans : window.nanos ≤ days * 86400 * 1000000000)
    (leap : now.nano.val < 1000000000 ∨ window.nanos + 1000000000 ≤ days * 86400 * 1000000000) :
    retentionCutoff days now ≤ later.windowStart window := by
  unfold retentionCutoff Span.ofDays? Span.ofSeconds?
  by_cases fits : (days * 86400).natAbs ≤ (Span.maxMillis / 1000).toNat
  · rw [if_pos fits]
    exact Instant.windowStart_le_windowStart order calendar nonneg spans leap
  · rw [if_neg fits]
    exact Instant.earliest_le_windowStart calendar nonneg

namespace Store

/-! ### What removal leaves -/

section Removal

variable {α : Type} [Stored ρ α] [Timestamped α] {store : Store ρ}

/-- Removal from a table changes that table only. -/
theorem deleteBefore_store (table : Table) (cutoff : Instant) (store : Store ρ) :
    ∃ log accesses, ((deleteBefore α table cutoff).run.run store).2 =
      { store with logs := store.logs.set table log, accesses } := by
  rcases deleteBefore_cases (α := α) table cutoff store with
    ⟨error, accesses, failed⟩ | ⟨-, accesses, done⟩
  · exact ⟨_, accesses, by rw [failed, Tables.set_get]⟩
  · exact ⟨_, accesses, by rw [done]⟩

/-- Where nothing is refused, removal fails only for a row that is no record. -/
theorem Willing.unread_of_deleteBefore (willing : store.Willing) {table : Table} {cutoff : Instant}
    {error : StoreError} (failed : ((deleteBefore α table cutoff).run.run store).1 = .error error) :
    ∃ row ∈ (store.logs.get table).newestFirst, ¬ holdsRecord α row := by
  rcases (deleteBefore_fails_iff table cutoff store).mp ⟨error, failed⟩ with
    refused | unread | ⟨refused, -⟩
  · exact absurd refused (willing.accepts _ _ _)
  · exact unread
  · exact absurd refused (willing.accepts _ _ _)

/-- What a store that refuses nothing keeps of a table, newest first: all that is not too old, or
everything if there is a row that is no record. -/
theorem newestFirst_deleteBefore (willing : store.Willing) (table : Table) (cutoff : Instant) :
    ((((deleteBefore α table cutoff).run.run store).2).logs.get table).newestFirst =
      if (store.logs.get table).newestFirst.all (holdsRecord α) then
        (store.logs.get table).newestFirst.filter fun row => !isStale α cutoff row
      else (store.logs.get table).newestFirst := by
  rcases deleteBefore_cases (α := α) table cutoff store with
    ⟨error, accesses, failed⟩ | ⟨readable, accesses, done⟩
  · obtain ⟨row, member, unread⟩ := willing.unread_of_deleteBefore (congrArg Prod.fst failed)
    rw [if_neg fun all => unread (List.all_eq_true.mp all row member), failed]
  · rw [if_pos (List.all_eq_true.mpr readable), done]
    dsimp only
    rw [Tables.get_set_same, Log.newestFirst_removedBefore]

end Removal

/-- What is left of the samples when old records are removed. -/
theorem run_prune [Stored ρ (Sample ν)] [Stored ρ (Alert ν)] {store : Store ρ}
    (willing : store.Willing) (days : Int) (now : Instant) :
    ((prune ν days now).run.run store).2.Willing ∧
      (((prune ν days now).run.run store).2.logs.get .samples).newestFirst =
        if (store.logs.get .samples).newestFirst.all (holdsRecord (Sample ν)) then
          (store.logs.get .samples).newestFirst.filter fun row =>
            !isStale (Sample ν) (retentionCutoff days now) row
        else (store.logs.get .samples).newestFirst := by
  have left := newestFirst_deleteBefore (α := Sample ν) willing .samples (retentionCutoff days now)
  obtain ⟨log, accesses, changed⟩ :=
    deleteBefore_store (α := Sample ν) .samples (retentionCutoff days now) store
  unfold prune
  rw [run_bind, ← left]
  generalize (deleteBefore (Sample ν) .samples (retentionCutoff days now)).run.run store = ran
    at changed ⊢
  obtain ⟨failure | count, after⟩ := ran
  · obtain rfl := changed
    exact ⟨willing, rfl⟩
  · obtain rfl := changed
    dsimp only
    -- The alerts are removed after the samples, and whether they are does not matter to these.
    obtain ⟨log', accesses', changed'⟩ := deleteBefore_store (α := Alert ν) .alerts
      (retentionCutoff days now) { store with logs := store.logs.set .samples log, accesses }
    rw [run_bind]
    generalize (deleteBefore (Alert ν) .alerts (retentionCutoff days now) : StoreM ρ Nat).run.run _ =
      ran' at changed' ⊢
    obtain ⟨failure | count', after'⟩ := ran'
    · obtain rfl := changed'
      exact ⟨willing, rfl⟩
    · obtain rfl := changed'
      exact ⟨willing, rfl⟩

end Store

/-! ### Rows of which one store has fewer -/

section Keeps

variable [Stored ρ (Sample ν)]

/-- Rows from the newest on, of which some have been removed that are too old for all windows of some
length that end at the instants to come. The others were written before these. -/
structure Keeps (ν : Type) [Stored ρ (Sample ν)] (window : Span) (future : List Instant)
    (kept all : List ρ) : Prop where
  removed : ∃ old, all = kept ++ old ∧ ∀ row ∈ old, ∃ s : Sample ν, Stored.read? row = some s ∧
    ∀ now ∈ future, s.timestamp < now.windowStart window
  past : ∀ row ∈ kept, ∀ s : Sample ν, Stored.read? row = some s →
    ∀ now ∈ future, s.timestamp ≤ now
  inOrder : kept.Pairwise fun newer older => ∀ s s' : Sample ν, Stored.read? newer = some s →
    Stored.read? older = some s' → s'.timestamp ≤ s.timestamp

namespace Keeps

variable {window : Span} {future : List Instant} {now : Instant} {kept all : List ρ}

theorem nil (window : Span) (future : List Instant) : Keeps (ρ := ρ) ν window future [] [] where
  removed := ⟨[], rfl, fun _ member => absurd member List.not_mem_nil⟩
  past := fun _ member => absurd member List.not_mem_nil
  inOrder := .nil

/-- Time goes on. -/
theorem later (keeps : Keeps ν window (now :: future) kept all) :
    Keeps ν window future kept all where
  removed := by
    obtain ⟨old, split, early⟩ := keeps.removed
    refine ⟨old, split, fun row member => ?_⟩
    obtain ⟨s, read, before⟩ := early row member
    exact ⟨s, read, fun q among => before q (List.mem_cons_of_mem _ among)⟩
  past row member s read q among := keeps.past row member s read q (List.mem_cons_of_mem _ among)
  inOrder := keeps.inOrder

/-- A sample of now comes on top. -/
theorem insert (keeps : Keeps ν window (now :: future) kept all) (order : ∀ q ∈ future, now ≤ q)
    {row : ρ} (time : ∀ s : Sample ν, Stored.read? row = some s → s.timestamp = now) :
    Keeps ν window (now :: future) (row :: kept) (row :: all) where
  removed := by
    obtain ⟨old, split, early⟩ := keeps.removed
    exact ⟨old, congrArg (row :: ·) split, early⟩
  past other member s read q among := by
    rcases List.mem_cons.mp member with rfl | member
    · rw [time s read]
      rcases List.mem_cons.mp among with rfl | among
      · exact Instant.le_refl q
      · exact order q among
    · exact keeps.past other member s read q among
  inOrder := by
    refine List.pairwise_cons.mpr ⟨fun older member s s' read read' => ?_, keeps.inOrder⟩
    rw [time s read]
    exact keeps.past older member s' read' now List.mem_cons_self

/-- A walk back through a window finds the same in all rows as in those that are kept. -/
theorem collectSamples_eq (keeps : Keeps ν window (now :: future) kept all) :
    (collectSamples (now.windowStart window) now kept [] : Except StoreError (List (Sample ν))) =
      collectSamples (now.windowStart window) now all [] := by
  obtain ⟨old, rfl, early⟩ := keeps.removed
  symm
  refine collectSamples_append (fun row first => ?_) kept []
  obtain ⟨s, read, before⟩ := early row (List.mem_of_head? first)
  exact ⟨s, read, before now List.mem_cons_self⟩

/-- Of rows in the order of time, the stale ones are the oldest. -/
theorem filter_append_filter {cutoff : Instant} {rows : List ρ}
    (readable : rows.all (holdsRecord (Sample ν)))
    (inOrder : rows.Pairwise fun newer older => ∀ s s' : Sample ν, Stored.read? newer = some s →
      Stored.read? older = some s' → s'.timestamp ≤ s.timestamp) :
    rows = rows.filter (fun row => !isStale (Sample ν) cutoff row) ++
      rows.filter (isStale (Sample ν) cutoff) := by
  induction rows with
  | nil => rfl
  | cons row rest ih =>
      rw [List.all_cons, Bool.and_eq_true] at readable
      obtain ⟨first, others⟩ := List.pairwise_cons.mp inOrder
      have split := ih readable.2 others
      by_cases stale : isStale (Sample ν) cutoff row = true
      · -- All older rows are stale with this one.
        have older : ∀ other ∈ rest, isStale (Sample ν) cutoff other = true := by
          intro other member
          obtain ⟨s, read, -⟩ := readRow_of_holds readable.1
          obtain ⟨s', read', -⟩ := readRow_of_holds (List.all_eq_true.mp readable.2 other member)
          unfold isStale at stale ⊢
          rw [read, Option.any_some, decide_eq_true_iff] at stale
          rw [read', Option.any_some, decide_eq_true_iff]
          exact Int.lt_of_le_of_lt (first other member s s' read read') stale
        have none : rest.filter (fun row => !isStale (Sample ν) cutoff row) = [] := by
          rw [List.filter_eq_nil_iff]
          intro other member
          simp [older other member]
        rw [List.filter_cons_of_neg (by simp [stale]), List.filter_cons_of_pos stale, none,
          List.filter_eq_self.mpr older]
        rfl
      · rw [List.filter_cons_of_pos (by simp [stale]), List.filter_cons_of_neg stale,
          List.cons_append, ← split]

/-- Stale rows are removed that no window to come reaches. -/
theorem remove (keeps : Keeps ν window future kept all)
    (readable : kept.all (holdsRecord (Sample ν))) {cutoff : Instant}
    (reach : ∀ q ∈ future, cutoff ≤ q.windowStart window) :
    Keeps ν window future (kept.filter fun row => !isStale (Sample ν) cutoff row) all where
  removed := by
    obtain ⟨old, rfl, early⟩ := keeps.removed
    refine ⟨kept.filter (isStale (Sample ν) cutoff) ++ old, ?_, fun row member => ?_⟩
    · rw [← List.append_assoc, ← filter_append_filter readable keeps.inOrder]
    · rcases List.mem_append.mp member with member | member
      · obtain ⟨member, stale⟩ := List.mem_filter.mp member
        obtain ⟨s, read, -⟩ := readRow_of_holds (List.all_eq_true.mp readable row member)
        unfold isStale at stale
        rw [read, Option.any_some, decide_eq_true_iff] at stale
        exact ⟨s, read, fun q among => Instant.lt_of_lt_of_le stale (reach q among)⟩
      · exact early row member
  past row member := keeps.past row (List.mem_filter.mp member).1
  inOrder := keeps.inOrder.filter _

end Keeps

end Keeps

end FlowAudit
