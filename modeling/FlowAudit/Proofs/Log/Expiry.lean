import FlowAudit.Proofs.Log.Removal

/-!
# FlowAudit.Proofs.Log.Expiry

**Removing what is too old is exact, and it happens as a whole or not at all.** A call of `deleteBefore`
ends in one of two ways (`deleteBefore_cases`): it fails and every table is as before, or all rows of its
table hold records and the stale ones are gone. What it returns, what it leaves and what a second call
finds follow from that (`deleteBefore_exact`), for either rule that issues keys, for any rows, and also
where the store refuses accesses.
-/

namespace FlowAudit

variable {ρ α : Type}

namespace Log

theorem keep_eq_self {test : Row ρ → Bool} {log : Log ρ} (all : ∀ row ∈ log.rows, test row) :
    log.keep test = log :=
  ext_rows (List.filter_eq_self.mpr all) rfl

theorem mem_newestFirst {value : ρ} {log : Log ρ} :
    value ∈ log.newestFirst ↔ ∃ row ∈ log.entries, row.value = value := by
  simp [newestFirst, entries]

end Log

section Stale

variable [Stored ρ α] [Timestamped α]

theorem isStale_iff {cutoff : Instant} {row : ρ} :
    isStale α cutoff row ↔ ∃ record : α, Stored.read? row = some record ∧ createdAt record < cutoff := by
  simp [isStale, Option.any_eq_true]

/-- What is too old for an instant is too old for every later one. -/
theorem isStale_mono {early late : Instant} (order : early ≤ late) {row : ρ}
    (stale : isStale α early row) : isStale α late row := by
  obtain ⟨record, read, old⟩ := isStale_iff.mp stale
  exact isStale_iff.mpr ⟨record, read, Int.lt_of_lt_of_le old order⟩

/-- A log after the removal of what is too old. -/
def Log.removedBefore (α : Type) [Stored ρ α] [Timestamped α] (cutoff : Instant) (log : Log ρ) : Log ρ :=
  log.keep fun row => !isStale α cutoff row.value

namespace Log

variable {cutoff : Instant} {log : Log ρ}

theorem entries_removedBefore :
    (log.removedBefore α cutoff).entries = log.entries.filter fun row => !isStale α cutoff row.value :=
  entries_keep _ log

theorem mem_removedBefore {row : Row ρ} :
    row ∈ (log.removedBefore α cutoff).entries ↔ row ∈ log.entries ∧ ¬ isStale α cutoff row.value := by
  simp [entries_removedBefore]

theorem newestFirst_removedBefore : (log.removedBefore α cutoff).newestFirst =
    log.newestFirst.filter fun row => !isStale α cutoff row :=
  newestFirst_keep (fun row => !isStale α cutoff row) log

/-- Where nothing is too old, nothing goes. -/
theorem removedBefore_eq_self (fresh : ∀ row ∈ log.newestFirst, ¬ isStale α cutoff row) :
    log.removedBefore α cutoff = log :=
  keep_eq_self fun row member => by simpa using fresh row.value (List.mem_map_of_mem member)

/-- What is too old and what is left is everything. -/
theorem countP_add_length_removedBefore (cutoff : Instant) (log : Log ρ) :
    log.newestFirst.countP (isStale α cutoff) + (log.removedBefore α cutoff).entries.length =
      log.entries.length := by
  rw [length_entries, length_entries, ← length_newestFirst, ← length_newestFirst,
    newestFirst_removedBefore, ← List.countP_eq_length_filter,
    List.length_eq_countP_add_countP (isStale α cutoff)]
  simp

/-- What is left after a removal up to some instant is left after one up to an earlier instant. -/
theorem removedBefore_antitone {early late : Instant} (order : early ≤ late) {row : Row ρ}
    (left : row ∈ (log.removedBefore α late).entries) : row ∈ (log.removedBefore α early).entries := by
  rw [mem_removedBefore] at left ⊢
  exact ⟨left.1, fun stale => left.2 (isStale_mono order stale)⟩

end Log

end Stale

namespace Store

variable [Stored ρ α] [Timestamped α]

/-- **Removal fails and changes no table, or it takes the stale rows of its table**, which then all hold
records. -/
theorem deleteBefore_cases (table : Table) (cutoff : Instant) (store : Store ρ) :
    (∃ error accesses, (deleteBefore α table cutoff).run.run store =
        (.error error, { store with accesses })) ∨
      (∀ row ∈ (store.logs.get table).newestFirst, holdsRecord α row) ∧
        ∃ accesses, (deleteBefore α table cutoff).run.run store =
          (.ok ((store.logs.get table).newestFirst.countP (isStale α cutoff)),
            { store with
              logs := store.logs.set table ((store.logs.get table).removedBefore α cutoff)
              accesses }) := by
  rw [run_deleteBefore]
  by_cases refused : store.refuses store.accesses .read table
  · rw [if_pos refused]
    exact Or.inl ⟨_, _, rfl⟩
  rw [if_neg refused]
  by_cases readable : (store.logs.get table).newestFirst.all (holdsRecord α)
  · rw [if_pos readable]
    by_cases stale : (store.logs.get table).newestFirst.any (isStale α cutoff)
    · rw [if_pos stale]
      by_cases refused' : store.refuses (store.accesses + 1) .remove table
      · rw [if_pos refused']
        exact Or.inl ⟨_, _, rfl⟩
      · rw [if_neg refused']
        exact Or.inr ⟨List.all_eq_true.mp readable, _, rfl⟩
    · -- Nothing is stale, so to keep what is not stale is to keep everything.
      have fresh : ∀ row ∈ (store.logs.get table).newestFirst, ¬ isStale α cutoff row := by
        simpa using stale
      rw [if_neg stale, Log.removedBefore_eq_self fresh, Tables.set_get, List.countP_eq_zero.mpr fresh]
      exact Or.inr ⟨List.all_eq_true.mp readable, _, rfl⟩
  · rw [if_neg readable]
    exact Or.inl ⟨_, _, rfl⟩

/-- **Removal fails exactly if a row of its table is no record**, be it the last one, or the store refuses
an access that is made: to read the table, or to remove rows when there are any to remove. -/
theorem deleteBefore_fails_iff (table : Table) (cutoff : Instant) (store : Store ρ) :
    (∃ error, ((deleteBefore α table cutoff).run.run store).1 = .error error) ↔
      store.refuses store.accesses .read table ∨
      (∃ row ∈ (store.logs.get table).newestFirst, ¬ holdsRecord α row) ∨
      store.refuses (store.accesses + 1) .remove table ∧
        ∃ row ∈ (store.logs.get table).newestFirst, isStale α cutoff row := by
  rw [run_deleteBefore]
  by_cases refused : store.refuses store.accesses .read table
  · simp [refused]
  by_cases readable : (store.logs.get table).newestFirst.all (holdsRecord α)
  · have all : ¬ ∃ row ∈ (store.logs.get table).newestFirst, ¬ holdsRecord α row := by
      simpa using readable
    by_cases stale : (store.logs.get table).newestFirst.any (isStale α cutoff)
    · by_cases refused' : store.refuses (store.accesses + 1) .remove table <;>
        simp only [refused, refused', readable, stale, all, ← List.any_eq_true] <;> simp
    · simp only [refused, readable, stale, all, ← List.any_eq_true]
      simp
  · have some_row : ∃ row ∈ (store.logs.get table).newestFirst, ¬ holdsRecord α row := by
      simpa using readable
    simp only [refused, readable, some_row]
    simp

/-- After a removal nothing is left that is as old. -/
theorem deleteBefore_again {table : Table} {early late : Instant} (order : early ≤ late) {store : Store ρ}
    (readable : ∀ row ∈ (store.logs.get table).newestFirst, holdsRecord α row)
    (fresh : ∀ row ∈ (store.logs.get table).newestFirst, ¬ isStale α late row) :
    (deleteBefore α table early).run.run store =
      (if store.refuses store.accesses .read table then .error .poisoned else .ok 0,
        store.touched) := by
  have none_stale : ¬ (store.logs.get table).newestFirst.any (isStale α early) := by
    intro stale
    obtain ⟨row, member, old⟩ := List.any_eq_true.mp stale
    exact fresh row member (isStale_mono order old)
  rw [run_deleteBefore, if_pos (List.all_eq_true.mpr readable), if_neg none_stale]
  by_cases refused : store.refuses store.accesses .read table
  · rw [if_pos refused, if_pos refused]
  · rw [if_neg refused, if_neg refused]

/-- How a removal of the records of a table created before an instant ends: with a result, and with a
store after it. -/
structure RemovesExactly (α : Type) [Stored ρ α] [Timestamped α] (table : Table) (cutoff : Instant)
    (store : Store ρ) (ended : Except StoreError Nat × Store ρ) : Prop where
  /-- It fails if a row of the table is no record, however many old ones stand before that row, and else
  only where the store refuses to be read or to remove what is too old. -/
  fails_iff : (∃ error, ended.1 = .error error) ↔
    store.refuses store.accesses .read table ∨
    (∃ row ∈ (store.logs.get table).entries, ¬ holdsRecord α row.value) ∨
    store.refuses (store.accesses + 1) .remove table ∧
      ∃ row ∈ (store.logs.get table).entries, isStale α cutoff row.value
  /-- When it fails every table is as it was. -/
  unchanged : ∀ error, ended.1 = .error error → ended.2.logs = store.logs
  /-- When it does not, all rows are left but those created before the instant, under their keys, with
  their values and in their order. -/
  kept : ∀ n, ended.1 = .ok n → (ended.2.logs.get table).entries =
    (store.logs.get table).entries.filter fun row => !isStale α cutoff row.value
  /-- The result is how many rows are gone. -/
  counted : ∀ n, ended.1 = .ok n →
    n + (ended.2.logs.get table).entries.length = (store.logs.get table).entries.length
  others : ∀ other, other ≠ table → ended.2.logs.get other = store.logs.get other
  /-- A second removal, up to the same instant or an earlier one, removes nothing. -/
  again : ∀ n, ended.1 = .ok n → ∀ earlier, earlier ≤ cutoff →
    (deleteBefore α table earlier).run.run ended.2 =
      (if ended.2.refuses ended.2.accesses .read table then .error .poisoned else .ok 0,
        ended.2.touched)

/-- **Removal is exact and atomic**, for all stores, tables, kinds of records and instants. -/
theorem deleteBefore_exact (table : Table) (cutoff : Instant) (store : Store ρ) :
    RemovesExactly α table cutoff store ((deleteBefore α table cutoff).run.run store) := by
  have fails := deleteBefore_fails_iff (α := α) table cutoff store
  simp only [Log.mem_newestFirst, exists_exists_and_eq_and] at fails
  rcases deleteBefore_cases (α := α) table cutoff store with
    ⟨error, accesses, ended⟩ | ⟨readable, accesses, ended⟩
  · rw [ended] at fails ⊢
    exact
      { fails_iff := fails
        unchanged := fun _ _ => rfl
        kept := nofun
        counted := nofun
        others := fun _ _ => rfl
        again := nofun }
  · rw [ended] at fails ⊢
    have left : (store.logs.set table ((store.logs.get table).removedBefore α cutoff)).get table =
        (store.logs.get table).removedBefore α cutoff := Tables.get_set_same _ _ _
    refine
      { fails_iff := fails
        unchanged := nofun
        kept := fun n _ => by rw [left, Log.entries_removedBefore]
        counted := fun n counted => ?_
        others := fun other apart => Tables.get_set_other _ _ apart
        again := fun n _ earlier order => deleteBefore_again order ?_ ?_ }
    · obtain rfl := Except.ok.inj counted
      rw [left]
      exact Log.countP_add_length_removedBefore cutoff _
    · intro row member
      rw [left, Log.newestFirst_removedBefore] at member
      exact readable row (List.mem_filter.mp member).1
    · intro row member
      rw [left, Log.newestFirst_removedBefore] at member
      simpa using (List.mem_filter.mp member).2

end Store

end FlowAudit
