import FlowAudit.Proofs.Log.Actions

/-!
# FlowAudit.Proofs.Log.Insertion

**Records inserted one after the other, whichever of them are refused.** Each attempt is one access,
so which records are refused can be told beforehand from the number of accesses so far: `accepted`
and `refused` are the two halves of the records, and `afterInserts` is the store with the accepted
ones at the end of their table. All of them take a list apart where it is put together, which is what
a proof by induction over a loop of inserts needs.
-/

namespace FlowAudit

variable {ρ α β : Type}

/-- Append values one after the other. -/
def Log.appendAll (rule : KeyRule) (log : Log ρ) (values : List ρ) : Log ρ :=
  values.foldl (append rule) log

theorem Log.appendAll_append (rule : KeyRule) (log : Log ρ) (first second : List ρ) :
    log.appendAll rule (first ++ second) = (log.appendAll rule first).appendAll rule second :=
  List.foldl_append

namespace Store

/-- The records that a store accepts when they are inserted one after the other. -/
def accepted (store : Store ρ) (table : Table) (records : List α) : List α :=
  ((records.zipIdx store.accesses).filter fun entry =>
    !store.refuses entry.2 .append table).map Prod.fst

/-- The records that a store refuses when they are inserted one after the other. -/
def refused (store : Store ρ) (table : Table) (records : List α) : List α :=
  ((records.zipIdx store.accesses).filter fun entry =>
    store.refuses entry.2 .append table).map Prod.fst

/-- A store after attempts to insert records one after the other: those accepted stand in order at
the end of the table, and nothing else has changed. -/
def afterInserts [Stored ρ α] (store : Store ρ) (table : Table) (records : List α) : Store ρ :=
  { store with
    logs := store.logs.set table
      ((store.logs.get table).appendAll store.keys
        ((store.accepted table records).map Stored.write))
    accesses := store.accesses + records.length }

variable [Stored ρ α]

@[simp]
theorem afterInserts_refuses (store : Store ρ) (table : Table) (records : List α) :
    (store.afterInserts table records).refuses = store.refuses := rfl

@[simp]
theorem afterInserts_accesses (store : Store ρ) (table : Table) (records : List α) :
    (store.afterInserts table records).accesses = store.accesses + records.length := rfl

@[simp]
theorem afterInserts_keys (store : Store ρ) (table : Table) (records : List α) :
    (store.afterInserts table records).keys = store.keys := rfl

theorem afterInserts_logs (store : Store ρ) (table : Table) (records : List α) :
    (store.afterInserts table records).logs = store.logs.set table
      ((store.logs.get table).appendAll store.keys
        ((store.accepted table records).map Stored.write)) := rfl

@[simp]
theorem afterInserts_nil (store : Store ρ) (table : Table) :
    store.afterInserts table ([] : List α) = store := by
  show { store with logs := store.logs.set table (store.logs.get table) } = store
  rw [Tables.set_get]

theorem accepted_append (store : Store ρ) (table : Table) (first second : List α) :
    store.accepted table (first ++ second) =
      store.accepted table first ++ (store.afterInserts table first).accepted table second := by
  rw [accepted, accepted, accepted, List.zipIdx_append, List.filter_append, List.map_append,
    afterInserts_refuses, afterInserts_accesses]

theorem refused_append (store : Store ρ) (table : Table) (first second : List α) :
    store.refused table (first ++ second) =
      store.refused table first ++ (store.afterInserts table first).refused table second := by
  rw [refused, refused, refused, List.zipIdx_append, List.filter_append, List.map_append,
    afterInserts_refuses, afterInserts_accesses]

theorem afterInserts_append (store : Store ρ) (table : Table) (first second : List α) :
    store.afterInserts table (first ++ second) =
      (store.afterInserts table first).afterInserts table second := by
  have logs : (store.afterInserts table (first ++ second)).logs =
      ((store.afterInserts table first).afterInserts table second).logs := by
    simp only [afterInserts_logs, accepted_append, List.map_append, Log.appendAll_append,
      Tables.get_set_same, Tables.set_set, afterInserts_keys]
  have accesses : store.accesses + (first ++ second).length =
      store.accesses + first.length + second.length := by
    rw [List.length_append, Nat.add_assoc]
  show { store with
    logs := (store.afterInserts table (first ++ second)).logs
    accesses := store.accesses + (first ++ second).length } = _
  rw [logs, accesses]
  rfl

/-- **An attempt to insert succeeds exactly when the store does not refuse it**, and in either case
the store is as `afterInserts` says. -/
theorem run_attempt_insert (table : Table) (record : α) (store : Store ρ) :
    (attempt (insert table record)).run store =
      (if store.refuses store.accesses .append table then none else some (),
        store.afterInserts table [record]) := by
  rw [run_attempt, run_insert]
  by_cases refuses : store.refuses store.accesses .append table
  · have none_accepted : store.accepted table [record] = [] := by
      simp [accepted, refuses]
    rw [if_pos refuses, if_pos refuses, afterInserts, none_accepted]
    refine congrArg (Prod.mk none) ?_
    show store.touched = { store.touched with logs := store.logs.set table (store.logs.get table) }
    rw [Tables.set_get]
    rfl
  · have one_accepted : store.accepted table [record] = [record] := by
      simp [accepted, refuses]
    rw [if_neg refuses, if_neg refuses, afterInserts, one_accepted]
    rfl

/-- A program that only looks at whether an attempt to insert succeeds goes on with what the store
makes known beforehand. -/
theorem run_attempt_insert_bind (table : Table) (record : α) (next : Bool → StateM (Store ρ) β)
    (store : Store ρ) :
    (attempt (insert table record) >>= fun stored => next stored.isSome).run store =
      (next !store.refuses store.accesses .append table).run
        (store.afterInserts table [record]) := by
  rw [StateT.run_bind, run_attempt_insert]
  cases store.refuses store.accesses .append table <;> rfl

omit [Stored ρ α] in
theorem length_refused_singleton (store : Store ρ) (table : Table) (record : α) :
    (store.refused table [record]).length =
      if !store.refuses store.accesses .append table then 0 else 1 := by
  rw [refused, List.zipIdx_singleton, List.filter_cons]
  cases store.refuses store.accesses .append table <;> rfl

end Store

end FlowAudit
