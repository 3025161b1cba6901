import FlowAudit.Proofs.Log.Actions
import Mathlib.Data.List.Nodup

/-!
# FlowAudit.Proofs.Log.Removal

**Removing what is too old, without a word of keys.** `deleteBefore` lists the keys of the stale rows
and has the rows with these keys removed. No two rows of a log share a key, so what goes are the
stale rows and no others: for the values, removal is a filter. `run_deleteBefore` says so for any
store, any pattern of refusals and any rows, those included that are no records.
-/

namespace FlowAudit

variable {ρ α : Type}

namespace Log

/-! ### Keys tell rows apart -/

theorem ext_rows {log other : Log ρ} (rows : log.rows = other.rows)
    (bound : log.bound = other.bound) : log = other := by
  cases log
  cases other
  cases rows
  cases bound
  rfl

theorem keep_congr {test test' : Row ρ → Bool} {log : Log ρ}
    (same : ∀ row ∈ log.rows, test row = test' row) : log.keep test = log.keep test' :=
  ext_rows (List.filter_congr same) rfl

/-- Rows of a log that share a key are one row. -/
theorem eq_of_key_eq (log : Log ρ) {row other : Row ρ} (hrow : row ∈ log.rows)
    (hother : other ∈ log.rows) (same : row.key = other.key) : row = other := by
  have distinct : (log.rows.map Row.key).Nodup :=
    List.pairwise_map.mpr (log.descending.imp Nat.ne_of_gt)
  exact List.inj_on_of_nodup_map distinct hrow hother same

/-- **Removal by keys is removal by rows.** -/
theorem remove_keys (log : Log ρ) (test : Row ρ → Bool) :
    log.remove ((log.entries.filter test).map Row.key) = log.keep fun row => !test row := by
  refine keep_congr fun row hrow => congrArg (!·) ?_
  rw [Bool.eq_iff_iff, List.contains_iff_mem, List.mem_map]
  constructor
  · -- A listed key might be that of another row, if rows could share keys.
    rintro ⟨other, hother, same⟩
    rw [List.mem_filter, entries, List.mem_reverse] at hother
    rw [← log.eq_of_key_eq hother.1 hrow same]
    exact hother.2
  · intro holds
    exact ⟨row, List.mem_filter.mpr ⟨List.mem_reverse.mpr hrow, holds⟩, rfl⟩

/-! ### Removal, seen from the values -/

/-- No keys are listed exactly when the test holds of no value. -/
theorem isEmpty_keys (test : ρ → Bool) (log : Log ρ) :
    ((log.entries.filter fun row => test row.value).map Row.key).isEmpty =
      !log.newestFirst.any test := by
  rw [List.isEmpty_map, ← reverse_entries_map, List.any_map, List.any_reverse, Bool.eq_iff_iff,
    List.isEmpty_iff, List.filter_eq_nil_iff, List.not_any_eq_all_not, List.all_eq_true]
  simp

theorem newestFirst_keep (test : ρ → Bool) (log : Log ρ) :
    (log.keep fun row => test row.value).newestFirst = log.newestFirst.filter test := by
  rw [newestFirst, newestFirst, List.filter_map]
  rfl

theorem length_newestFirst (log : Log ρ) : log.newestFirst.length = log.size :=
  List.length_map _

/-- As many rows go as there are values for which the test holds. -/
theorem size_sub_size_keep (test : ρ → Bool) (log : Log ρ) :
    log.size - (log.keep fun row => !test row.value).size = log.newestFirst.countP test := by
  rw [← length_newestFirst, ← length_newestFirst, newestFirst_keep fun value => !test value,
    ← List.countP_eq_length_filter, List.length_eq_countP_add_countP test]
  simp

end Log

/-! ### What is too old -/

/-- Whether a row holds a record. -/
def holdsRecord (α : Type) [Stored ρ α] (row : ρ) : Bool :=
  (Stored.read? row : Option α).isSome

/-- Whether a row holds a record created before an instant. -/
def isStale (α : Type) [Stored ρ α] [Timestamped α] (cutoff : Instant) (row : ρ) : Bool :=
  (Stored.read? row : Option α).any fun record => createdAt record < cutoff

variable [Stored ρ α]

theorem readRow_of_holds {row : ρ} (holds : holdsRecord α row) :
    ∃ record : α, Stored.read? row = some record ∧ readRow row = .ok record := by
  obtain ⟨record, read⟩ := Option.isSome_iff_exists.mp holds
  exact ⟨record, read, by rw [readRow, read]⟩

theorem readRow_of_not_holds {row : ρ} (fails : ¬ holdsRecord α row) :
    (readRow row : Except StoreError α) = .error .undecodable := by
  rw [holdsRecord, Option.not_isSome_iff_eq_none] at fails
  rw [readRow, fails]

/-- The stale keys are those of the stale rows, once every row is seen to hold a record. -/
theorem staleKeys_eq [Timestamped α] (cutoff : Instant) (rows : List (Row ρ)) :
    staleKeys α cutoff rows =
      if rows.all fun row => holdsRecord α row.value then
        .ok ((rows.filter fun row => isStale α cutoff row.value).map Row.key)
      else .error .undecodable := by
  induction rows with
  | nil => rfl
  | cons row rest ih =>
      unfold staleKeys
      by_cases holds : holdsRecord α row.value
      · obtain ⟨record, read, opened⟩ := readRow_of_holds holds
        rw [opened, ih, List.all_cons, holds, Bool.true_and]
        -- Whether the first row is stale only counts once the other rows are seen to be records.
        by_cases later : (rest.all fun row => holdsRecord α row.value) = true
        · rw [if_pos later, if_pos later]
          have stale : isStale α cutoff row.value = decide (createdAt record < cutoff) := by
            rw [isStale, read]
            rfl
          rw [List.filter_cons, stale]
          by_cases old : createdAt record < cutoff
          · rw [if_pos (decide_eq_true old), List.map_cons]
            exact congrArg Except.ok (if_pos old)
          · rw [if_neg (by simpa using old)]
            exact congrArg Except.ok (if_neg old)
        · rw [if_neg later, if_neg later]
          rfl
      · rw [readRow_of_not_holds holds, List.all_cons, Bool.eq_false_iff.mpr holds, Bool.false_and]
        rfl

namespace Store

/-- **What `deleteBefore` does.** Nothing if there is a row that is no record or no row is stale;
else the stale rows go, and no others. -/
theorem run_deleteBefore [Timestamped α] (table : Table) (cutoff : Instant) (store : Store ρ) :
    (deleteBefore α table cutoff).run.run store =
      if store.refuses store.accesses .read table then (.error .poisoned, store.touched)
      else if (store.logs.get table).newestFirst.all (holdsRecord α) then
        if (store.logs.get table).newestFirst.any (isStale α cutoff) then
          if store.refuses (store.accesses + 1) .remove table then
            (.error .poisoned, store.touched.touched)
          else
            (.ok ((store.logs.get table).newestFirst.countP (isStale α cutoff)),
              store.touched.touched.withLog table
                ((store.logs.get table).keep fun row => !isStale α cutoff row.value))
        else (.ok 0, store.touched)
      else (.error .undecodable, store.touched) := by
  have hall : ((store.logs.get table).entries.all fun row => holdsRecord α row.value) =
      (store.logs.get table).newestFirst.all (holdsRecord α) := by
    rw [← Log.reverse_entries_map, List.all_map, List.all_reverse]
    rfl
  unfold deleteBefore
  rw [run_bind, run_entries]
  by_cases refused : store.refuses store.accesses .read table
  · rw [if_pos refused, if_pos refused]
  · rw [if_neg refused, if_neg refused]
    show ((liftM (staleKeys α cutoff (store.logs.get table).entries) >>= fun keys =>
      if keys.isEmpty then pure 0 else remove table keys : StoreM ρ Nat).run.run store.touched) = _
    rw [run_bind, run_lift, staleKeys_eq, hall]
    by_cases readable : (store.logs.get table).newestFirst.all (holdsRecord α)
    · rw [if_pos readable, if_pos readable]
      show ((if ((((store.logs.get table).entries.filter fun row =>
        isStale α cutoff row.value).map Row.key).isEmpty) then pure 0 else
          remove table _ : StoreM ρ Nat).run.run store.touched) = _
      rw [Log.isEmpty_keys]
      by_cases stale : (store.logs.get table).newestFirst.any (isStale α cutoff)
      · rw [if_pos stale, if_neg (by simp [stale]), run_remove, touched_refuses, touched_accesses,
          touched_logs, Log.remove_keys, Log.size_sub_size_keep]
      · rw [if_neg stale, if_pos (by simp [stale]), run_pure]
    · rw [if_neg readable, if_neg readable]

end Store

end FlowAudit
