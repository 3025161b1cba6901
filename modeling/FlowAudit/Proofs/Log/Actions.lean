import FlowAudit.Log.Query

/-!
# FlowAudit.Proofs.Log.Actions

**What actions do to a store, as equations.** One for each action: its result and the store after it,
for any store and any pattern of refusals. Proofs about programs over a store rewrite with these and
open none of the actions. `run_newestFirst` and `run_count` are also where the two ways to walk
through a store turn out to be one.
-/

namespace FlowAudit

variable {ρ ν α β : Type}

theorem Log.reverse_entries_map (log : Log ρ) :
    log.entries.reverse.map Row.value = log.newestFirst := by
  rw [entries, List.reverse_reverse, newestFirst]

theorem Log.length_entries (log : Log ρ) : log.entries.length = log.size := by
  rw [entries, List.length_reverse, size]

namespace Store

/-! ### Programs over a store -/

theorem run_pure (a : α) (store : Store ρ) : (pure a : StoreM ρ α).run.run store = (.ok a, store) :=
  rfl

/-- A result that is known beforehand leaves the store as it is. -/
theorem run_lift (result : Except StoreError α) (store : Store ρ) :
    (liftM result : StoreM ρ α).run.run store = (result, store) := rfl

/-- A program goes on with the result and the store of its first action, unless that fails. -/
theorem run_bind (action : StoreM ρ α) (next : α → StoreM ρ β) (store : Store ρ) :
    (action >>= next).run.run store =
      match action.run.run store with
      | (.ok a, after) => (next a).run.run after
      | (.error e, after) => (.error e, after) := by
  rw [ExceptT.run_bind, StateT.run_bind]
  rcases action.run.run store with ⟨_ | _, _⟩ <;> rfl

/-- An attempt keeps the store that an action leaves, failed or not. -/
theorem run_attempt (action : StoreM ρ α) (store : Store ρ) :
    (attempt action).run store =
      ((action.run.run store).1.toOption, (action.run.run store).2) := by
  rw [attempt, StateT.run_bind]
  rcases action.run.run store with ⟨_ | _, _⟩ <;> rfl

/-! ### Accesses -/

/-- A store after one more access. -/
def touched (store : Store ρ) : Store ρ :=
  { store with accesses := store.accesses + 1 }

/-- A store with another log in the place of one. -/
def withLog (store : Store ρ) (table : Table) (log : Log ρ) : Store ρ :=
  { store with logs := store.logs.set table log }

@[simp]
theorem touched_logs (store : Store ρ) : store.touched.logs = store.logs := rfl

@[simp]
theorem touched_keys (store : Store ρ) : store.touched.keys = store.keys := rfl

@[simp]
theorem touched_refuses (store : Store ρ) : store.touched.refuses = store.refuses := rfl

@[simp]
theorem touched_accesses (store : Store ρ) : store.touched.accesses = store.accesses + 1 := rfl

@[simp]
theorem withLog_logs (store : Store ρ) (table : Table) (log : Log ρ) :
    (store.withLog table log).logs = store.logs.set table log := rfl

@[simp]
theorem withLog_keys (store : Store ρ) (table : Table) (log : Log ρ) :
    (store.withLog table log).keys = store.keys := rfl

@[simp]
theorem withLog_refuses (store : Store ρ) (table : Table) (log : Log ρ) :
    (store.withLog table log).refuses = store.refuses := rfl

@[simp]
theorem withLog_accesses (store : Store ρ) (table : Table) (log : Log ρ) :
    (store.withLog table log).accesses = store.accesses := rfl

/-- An access gives the log of the table, unless the store refuses it. -/
theorem run_access (kind : Access) (table : Table) (store : Store ρ) :
    (access kind table).run.run store =
      if store.refuses store.accesses kind table then (.error .poisoned, store.touched)
      else (.ok (store.logs.get table), store.touched) := by
  have opened : (access kind table).run.run store =
      (if store.refuses store.accesses kind table then
        throw StoreError.poisoned >>= fun _ : PUnit => pure (store.logs.get table)
      else pure (store.logs.get table) : StoreM ρ (Log ρ)).run.run store.touched := rfl
  rw [opened]
  split <;> rfl

/-- A program that begins with an access fails with it or goes on with the log. -/
theorem run_access_bind (kind : Access) (table : Table) (next : Log ρ → StoreM ρ α)
    (store : Store ρ) :
    (access kind table >>= next).run.run store =
      if store.refuses store.accesses kind table then (.error .poisoned, store.touched)
      else (next (store.logs.get table)).run.run store.touched := by
  rw [run_bind, run_access]
  by_cases refused : store.refuses store.accesses kind table
  · rw [if_pos refused, if_pos refused]
  · rw [if_neg refused, if_neg refused]

theorem run_append (table : Table) (value : ρ) (store : Store ρ) :
    (append table value).run.run store =
      if store.refuses store.accesses .append table then (.error .poisoned, store.touched)
      else (.ok ((store.logs.get table).nextKey store.keys),
        store.touched.withLog table ((store.logs.get table).append store.keys value)) := by
  unfold append
  rw [run_access_bind]
  rfl

/-- An insert appends what the record is written as. -/
theorem run_insert [Stored ρ α] (table : Table) (record : α) (store : Store ρ) :
    (insert table record).run.run store =
      if store.refuses store.accesses .append table then (.error .poisoned, store.touched)
      else (.ok (), store.touched.withLog table
        ((store.logs.get table).append store.keys (Stored.write record))) := by
  unfold insert
  rw [run_bind, run_append]
  by_cases refused : store.refuses store.accesses .append table
  · rw [if_pos refused, if_pos refused]
  · rw [if_neg refused, if_neg refused]
    rfl

theorem run_entries (table : Table) (store : Store ρ) :
    (entries table).run.run store =
      if store.refuses store.accesses .read table then (.error .poisoned, store.touched)
      else (.ok (store.logs.get table).entries, store.touched) := by
  unfold entries
  rw [run_access_bind]
  rfl

theorem run_values (table : Table) (store : Store ρ) :
    (values table).run.run store =
      if store.refuses store.accesses .read table then (.error .poisoned, store.touched)
      else (.ok (store.logs.get table).newestFirst.reverse, store.touched) := by
  unfold values
  rw [run_bind, run_entries, ← Log.reverse_entries_map, List.map_reverse, List.reverse_reverse]
  by_cases refused : store.refuses store.accesses .read table
  · rw [if_pos refused, if_pos refused]
  · rw [if_neg refused, if_neg refused]
    rfl

/-- An access followed by a choice by traversal, all of whose branches give the same. -/
theorem run_traverse (table : Table) (direct listed : Log ρ → α)
    (same : ∀ log, listed log = direct log) (store : Store ρ) :
    (do
      let log ← access .read table
      match (← get).traversal with
      | .direct => return direct log
      | .byListing => return listed log : StoreM ρ α).run.run store =
      if store.refuses store.accesses .read table then (.error .poisoned, store.touched)
      else (.ok (direct (store.logs.get table)), store.touched) := by
  rw [run_access_bind]
  by_cases refused : store.refuses store.accesses .read table
  · rw [if_pos refused, if_pos refused]
  · rw [if_neg refused, if_neg refused]
    -- An access leaves the way to walk as it is, so the store before it settles the branch.
    show (match store.touched.traversal with
      | .direct => (pure (direct (store.logs.get table)) : StoreM ρ α)
      | .byListing => pure (listed (store.logs.get table))).run.run store.touched = _
    cases store.touched.traversal with
    | direct => rfl
    | byListing => rw [same, run_pure]

/-- Walking back row by row and listing all rows first come to the same values. -/
theorem run_newestFirst (table : Table) (store : Store ρ) :
    (newestFirst table).run.run store =
      if store.refuses store.accesses .read table then (.error .poisoned, store.touched)
      else (.ok (store.logs.get table).newestFirst, store.touched) :=
  run_traverse table Log.newestFirst _ Log.reverse_entries_map store

/-- Counting rows one by one and listing them first come to the same number. -/
theorem run_count (table : Table) (store : Store ρ) :
    (count table).run.run store =
      if store.refuses store.accesses .read table then (.error .poisoned, store.touched)
      else (.ok (store.logs.get table).size, store.touched) :=
  run_traverse table Log.size _ Log.length_entries store

theorem run_remove (table : Table) (keys : List Nat) (store : Store ρ) :
    (remove table keys).run.run store =
      if store.refuses store.accesses .remove table then (.error .poisoned, store.touched)
      else (.ok ((store.logs.get table).size - ((store.logs.get table).remove keys).size),
        store.touched.withLog table ((store.logs.get table).remove keys)) := by
  unfold remove
  rw [run_access_bind]
  rfl

theorem run_clear (store : Store ρ) :
    clear.run.run store = (.ok (), { store with logs := store.logs.map Log.clear }) := rfl

end Store

end FlowAudit
