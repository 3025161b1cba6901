import FlowAudit.Proofs.Log.Removal
import Mathlib.Logic.Function.Basic

/-!
# FlowAudit.Proofs.Log.Interleaving

**Retention among other clients.** Clients share a store. Each access is one step, and `deleteBefore` is
two: it lists the keys of the rows that are too old, and later it removes what then stands under these
keys. Whatever other clients do in between, in a store that never issues a key twice it removes nothing
else. A store that goes on from its last row issues keys again once its newest rows are gone, and then a
new row may stand under a listed key: `removal_takes_stale` says that this is the only way in which a row
that is not too old can go, and `removal_takes_fresh` that it does happen.

What a call can rely on from its first step to its second is `Watched`: rows under listed keys are too
old unless their key was issued again, and that takes a step by which the table was cut back.
-/

namespace FlowAudit

/-! ### Records by table -/

/-- The records of a table. -/
def Table.Record (ν : Type) : Table → Type
  | .units => UnitRecord ν
  | .groups => GroupRecord ν
  | .samples => Sample ν
  | .alerts => Alert ν

variable {ρ ν α κ : Type}

instance [units : Stored ρ (UnitRecord ν)] [groups : Stored ρ (GroupRecord ν)]
    [samples : Stored ρ (Sample ν)] [alerts : Stored ρ (Alert ν)] (table : Table) :
    Stored ρ (table.Record ν) :=
  match table with
  | .units => units
  | .groups => groups
  | .samples => samples
  | .alerts => alerts

instance (table : Table) : Timestamped (table.Record ν) :=
  match table with
  | .units => inferInstanceAs (Timestamped (UnitRecord ν))
  | .groups => inferInstanceAs (Timestamped (GroupRecord ν))
  | .samples => inferInstanceAs (Timestamped (Sample ν))
  | .alerts => inferInstanceAs (Timestamped (Alert ν))

/-! ### Keys -/

namespace Log

theorem nextKey_append (rule : KeyRule) (log : Log ρ) (value : ρ) :
    (log.append rule value).nextKey rule = log.nextKey rule + 1 := by
  cases rule <;> rfl

theorem clear_eq_keep (log : Log ρ) : log.clear = log.keep fun _ => false :=
  ext_rows (by simp [clear, emptyFrom, keep]) rfl

end Log

/-! ### The two steps of a removal -/

namespace Store

/-- The first step of `deleteBefore`: the keys of the rows that are too old. -/
def pickStale (α : Type) [Stored ρ α] [Timestamped α] (table : Table) (cutoff : Instant) :
    StoreM ρ (List Nat) := do
  staleKeys α cutoff (← entries table)

/-- The second step of `deleteBefore`: remove the rows under these keys, if there are any keys. -/
def removePicked (table : Table) (keys : List Nat) : StoreM ρ Nat :=
  if keys.isEmpty then return 0 else remove table keys

theorem deleteBefore_eq_steps [Stored ρ α] [Timestamped α] (table : Table) (cutoff : Instant) :
    (deleteBefore α table cutoff : StoreM ρ Nat) =
      pickStale α table cutoff >>= removePicked table := by
  unfold deleteBefore pickStale
  rw [bind_assoc]
  rfl

theorem run_pickStale [Stored ρ α] [Timestamped α] (table : Table) (cutoff : Instant)
    (store : Store ρ) :
    (pickStale α table cutoff).run.run store =
      if store.refuses store.accesses .read table then (.error .poisoned, store.touched)
      else (staleKeys α cutoff (store.logs.get table).entries, store.touched) := by
  unfold pickStale
  rw [run_bind, run_entries]
  by_cases refused : store.refuses store.accesses .read table
  · rw [if_pos refused, if_pos refused]
  · rw [if_neg refused, if_neg refused]
    rfl

theorem run_removePicked (table : Table) (keys : List Nat) (store : Store ρ) :
    (removePicked table keys).run.run store =
      if keys.isEmpty then (.ok 0, store)
      else if store.refuses store.accesses .remove table then (.error .poisoned, store.touched)
      else (.ok ((store.logs.get table).size - ((store.logs.get table).remove keys).size),
        store.touched.withLog table ((store.logs.get table).remove keys)) := by
  unfold removePicked
  by_cases nothing : keys.isEmpty
  · rw [if_pos nothing, if_pos nothing, run_pure]
  · rw [if_neg nothing, if_neg nothing, run_remove]

end Store

/-! ### Clients of one store -/

/-- A call of `deleteBefore` between its steps. -/
structure Call where
  table : Table
  cutoff : Instant
  /-- The keys of the rows that it has found too old. -/
  keys : List Nat
  deriving Repr, DecidableEq

/-- A store with the calls of its clients that are between their steps. -/
structure SharedStore (ρ κ : Type) where
  store : Store ρ
  underWay : κ → Option Call := fun _ => none

/-- What a client can do in one step, with what comes of it. -/
inductive StoreMove (ρ κ : Type) where
  | append (client : κ) (table : Table) (value : ρ) (result : Except StoreError Nat)
  | clear (client : κ) (result : Except StoreError Unit)
  /-- The first step of a call. -/
  | pick (client : κ) (table : Table) (cutoff : Instant) (result : Except StoreError (List Nat))
  /-- The second step of a call. -/
  | remove (client : κ) (call : Call) (result : Except StoreError Nat)

/-- Whether the newest rows of a table may go by a move. -/
def StoreMove.CutsBack (table : Table) : StoreMove ρ κ → Prop
  | .append _ _ _ _ => False
  | .clear _ _ => True
  | .pick _ _ _ _ => False
  | .remove _ call _ => call.table = table

/-- By these moves a table was cut back, and after that the row was appended to it. -/
def AppendedAnew (moves : List (StoreMove ρ κ)) (table : Table) (row : Row ρ) : Prop :=
  ∃ first cut later client, moves = first ++ cut :: later ∧ cut.CutsBack table ∧
    .append client table row.value (.ok row.key) ∈ later

theorem AppendedAnew.append {moves : List (StoreMove ρ κ)} {table : Table} {row : Row ρ}
    (anew : AppendedAnew moves table row) (more : List (StoreMove ρ κ)) :
    AppendedAnew (moves ++ more) table row := by
  obtain ⟨first, cut, later, client, rfl, cuts, appended⟩ := anew
  exact ⟨first, cut, later ++ more, client, by simp, cuts, List.mem_append_left _ appended⟩

namespace SharedStore

section Moves

variable [DecidableEq κ] [Stored ρ (UnitRecord ν)] [Stored ρ (GroupRecord ν)]
  [Stored ρ (Sample ν)] [Stored ρ (Alert ν)]

/-- One move. A client can append and clear at any time, and has one call under way at most. A call
that has failed at its first step is over. -/
inductive Step (ν : Type) [Stored ρ (UnitRecord ν)] [Stored ρ (GroupRecord ν)]
    [Stored ρ (Sample ν)] [Stored ρ (Alert ν)] (a : SharedStore ρ κ) :
    StoreMove ρ κ → SharedStore ρ κ → Prop where
  | append {client : κ} {table : Table} {value : ρ} {result : Except StoreError Nat}
      {store : Store ρ} (ran : (Store.append table value).run.run a.store = (result, store)) :
      Step ν a (.append client table value result) { a with store }
  | clear {client : κ} {result : Except StoreError Unit} {store : Store ρ}
      (ran : Store.clear.run.run a.store = (result, store)) :
      Step ν a (.clear client result) { a with store }
  | pick {client : κ} {table : Table} {cutoff : Instant}
      {result : Except StoreError (List Nat)} {store : Store ρ}
      (free : a.underWay client = none)
      (ran : (Store.pickStale (table.Record ν) table cutoff).run.run a.store = (result, store)) :
      Step ν a (.pick client table cutoff result)
        { store
          underWay := Function.update a.underWay client
            (result.toOption.map fun keys => { table, cutoff, keys }) }
  | remove {client : κ} {call : Call} {result : Except StoreError Nat} {store : Store ρ}
      (own : a.underWay client = some call)
      (ran : (Store.removePicked call.table call.keys).run.run a.store = (result, store)) :
      Step ν a (.remove client call result)
        { store, underWay := Function.update a.underWay client none }

/-- What a store with no call under way has come to by moves, the last of them at the end. -/
inductive Reached (ν : Type) [Stored ρ (UnitRecord ν)] [Stored ρ (GroupRecord ν)]
    [Stored ρ (Sample ν)] [Stored ρ (Alert ν)] (start : Store ρ) :
    List (StoreMove ρ κ) → SharedStore ρ κ → Prop where
  | start : Reached ν start [] { store := start }
  | step {moves : List (StoreMove ρ κ)} {move : StoreMove ρ κ} {a b : SharedStore ρ κ}
      (before : Reached ν start moves a) (step : a.Step ν move b) :
      Reached ν start (moves ++ [move]) b

variable {a b : SharedStore ρ κ} {move : StoreMove ρ κ}

/-- **What a move can do to a table**: nothing, or append a row, or take rows away. -/
theorem Step.effect (step : a.Step ν move b) (table : Table) :
    b.store.keys = a.store.keys ∧
      (b.store.logs.get table = a.store.logs.get table ∨
        (∃ client value,
          move = .append client table value
            (.ok ((a.store.logs.get table).nextKey a.store.keys)) ∧
          b.store.logs.get table = (a.store.logs.get table).append a.store.keys value) ∨
        move.CutsBack table ∧
          ∃ test, b.store.logs.get table = (a.store.logs.get table).keep test) := by
  cases step with
  | @append client place value result store ran =>
      rw [Store.run_append] at ran
      split at ran
      · cases ran
        exact ⟨rfl, Or.inl rfl⟩
      · cases ran
        refine ⟨rfl, ?_⟩
        by_cases here : table = place
        · subst here
          exact Or.inr (Or.inl ⟨client, value, rfl, Tables.get_set_same _ _ _⟩)
        · exact Or.inl (Tables.get_set_other _ _ here)
  | clear ran =>
      rw [Store.run_clear] at ran
      cases ran
      refine ⟨rfl, Or.inr (Or.inr ⟨trivial, fun _ => false, ?_⟩)⟩
      rw [← Log.clear_eq_keep]
      exact Tables.get_map _ _ _
  | pick _ ran =>
      rw [Store.run_pickStale] at ran
      split at ran <;> cases ran <;> exact ⟨rfl, Or.inl rfl⟩
  | @remove client call result store _ ran =>
      rw [Store.run_removePicked] at ran
      split at ran
      · cases ran
        exact ⟨rfl, Or.inl rfl⟩
      · split at ran
        · cases ran
          exact ⟨rfl, Or.inl rfl⟩
        · cases ran
          refine ⟨rfl, ?_⟩
          by_cases here : table = call.table
          · subst here
            exact Or.inr (Or.inr ⟨rfl, _, Tables.get_set_same _ _ _⟩)
          · exact Or.inl (Tables.get_set_other _ _ here)

/-! ### From the first step to the second -/

/-- What a call finds of its table after some moves since its first step. -/
structure Watched (ν : Type) [Stored ρ (UnitRecord ν)] [Stored ρ (GroupRecord ν)]
    [Stored ρ (Sample ν)] [Stored ρ (Alert ν)] (since : List (StoreMove ρ κ)) (call : Call)
    (store : Store ρ) : Prop where
  /-- A row under a listed key is too old, unless it has come since. -/
  listed : ∀ row ∈ (store.logs.get call.table).rows, row.key ∈ call.keys →
    isStale (call.table.Record ν) call.cutoff row.value ∨
      store.keys = .afterLast ∧ AppendedAnew since call.table row
  /-- No listed key is the next one, unless the table was cut back. -/
  ahead : (∀ key ∈ call.keys, key < (store.logs.get call.table).nextKey store.keys) ∨
    store.keys = .afterLast ∧ ∃ cut ∈ since, cut.CutsBack call.table

omit [DecidableEq κ] in
/-- The keys that a call lists are those of rows which are too old. -/
theorem watched_of_pick {table : Table} {cutoff : Instant} {keys : List Nat} {store after : Store ρ}
    (ran : (Store.pickStale (table.Record ν) table cutoff).run.run store = (.ok keys, after)) :
    Watched (κ := κ) ν [] { table, cutoff, keys } after := by
  rw [Store.run_pickStale] at ran
  split at ran
  · cases ran
  · rw [staleKeys_eq] at ran
    split at ran
    · obtain ⟨found, rfl⟩ := Prod.mk.inj ran
      cases found
      have listed {key : Nat}
          (member : key ∈ ((store.logs.get table).entries.filter fun row =>
            isStale (table.Record ν) cutoff row.value).map Row.key) :
          ∃ row ∈ (store.logs.get table).rows,
            isStale (table.Record ν) cutoff row.value ∧ row.key = key := by
        obtain ⟨row, found, same⟩ := List.mem_map.mp member
        obtain ⟨there, stale⟩ := List.mem_filter.mp found
        exact ⟨row, List.mem_reverse.mp there, stale, same⟩
      refine ⟨fun row there picked => Or.inl ?_, Or.inl fun key picked => ?_⟩
      · obtain ⟨other, there', stale, same⟩ := listed picked
        rwa [(store.logs.get table).eq_of_key_eq there there' same.symm]
      · obtain ⟨row, there, -, rfl⟩ := listed picked
        exact (store.logs.get table).key_lt_nextKey store.keys row there
    · cases ran

/-- **Every move of any client keeps what a call relies on.** -/
theorem Watched.step {since : List (StoreMove ρ κ)} {call : Call}
    (h : Watched ν since call a.store) (step : a.Step ν move b) :
    Watched ν (since ++ [move]) call b.store := by
  obtain ⟨rule, same | ⟨client, value, rfl, appended⟩ | ⟨cuts, test, kept⟩⟩ :=
    step.effect call.table
  · refine ⟨fun row there picked => ?_, ?_⟩
    · rw [same] at there
      exact (h.listed row there picked).imp_right (.imp rule.trans (.append · _))
    · rw [same, rule]
      exact h.ahead.imp_right (.imp_right fun ⟨cut, member, cuts⟩ =>
        ⟨cut, List.mem_append_left _ member, cuts⟩)
  · refine ⟨fun row there picked => ?_, ?_⟩
    · rw [appended] at there
      rcases List.mem_cons.mp there with rfl | before
      · -- The new row stands under a listed key: this key was not the next one all along.
        rcases h.ahead with ahead | ⟨afterLast, cut, member, cuts⟩
        · exact absurd (ahead _ picked) (Nat.lt_irrefl _)
        · obtain ⟨first, later, rfl⟩ := List.append_of_mem member
          exact Or.inr ⟨rule.trans afterLast, first, cut, later ++ [_], client, by simp, cuts,
            List.mem_append_right _ (List.mem_singleton.mpr rfl)⟩
      · exact (h.listed row before picked).imp_right (.imp rule.trans (.append · _))
    · rw [appended, rule, Log.nextKey_append]
      exact h.ahead.imp (fun ahead key picked => Nat.lt_succ_of_lt (ahead key picked))
        (.imp_right fun ⟨cut, member, cuts⟩ => ⟨cut, List.mem_append_left _ member, cuts⟩)
  · refine ⟨fun row there picked => ?_, ?_⟩
    · rw [kept] at there
      exact (h.listed row (List.mem_filter.mp there).1 picked).imp_right
        (.imp rule.trans (.append · _))
    · rw [kept, rule]
      cases counting : a.store.keys with
      | counting =>
          have ahead := h.ahead
          rw [counting] at ahead
          exact Or.inl (ahead.resolve_right (by simp))
      | afterLast =>
          exact Or.inr ⟨rfl, move, List.mem_append_right _ (List.mem_singleton.mpr rfl), cuts⟩

/-- A call is under way after a move if it was before, or if the move is its first step. -/
theorem Step.underWay_cases (step : a.Step ν move b) {client : κ} {call : Call}
    (own : b.underWay client = some call) :
    a.underWay client = some call ∨
      move = .pick client call.table call.cutoff (.ok call.keys) ∧
        (Store.pickStale (call.table.Record ν) call.table call.cutoff).run.run a.store =
          (.ok call.keys, b.store) := by
  cases step with
  | append _ => exact Or.inl own
  | clear _ => exact Or.inl own
  | @pick other table cutoff result store _ ran =>
      change Function.update _ _ _ client = _ at own
      by_cases mine : client = other
      · subst mine
        rw [Function.update_self, Option.map_eq_some_iff] at own
        obtain ⟨keys, picked, rfl⟩ := own
        cases result with
        | error e => cases picked
        | ok listed =>
            cases picked
            exact Or.inr ⟨rfl, ran⟩
      · rw [Function.update_of_ne mine] at own
        exact Or.inl own
  | @remove other _ _ _ _ _ =>
      change Function.update _ _ _ client = _ at own
      by_cases mine : client = other
      · subst mine
        rw [Function.update_self] at own
        cases own
      · rw [Function.update_of_ne mine] at own
        exact Or.inl own

/-- **What every call that is under way relies on**, in any state that clients have come to. -/
theorem Reached.watched {start : Store ρ} {moves : List (StoreMove ρ κ)}
    (reached : Reached ν start moves a) :
    a.store.keys = start.keys ∧
      ∀ client call, a.underWay client = some call → ∃ before since,
        moves = before ++ .pick client call.table call.cutoff (.ok call.keys) :: since ∧
        Watched ν since call a.store := by
  induction reached with
  | start => exact ⟨rfl, fun client call own => by cases own⟩
  | @step moves move a b _ step ih =>
      obtain ⟨rule, ih⟩ := ih
      refine ⟨(step.effect .units).1.trans rule, fun client call own => ?_⟩
      rcases step.underWay_cases own with own | ⟨rfl, ran⟩
      · obtain ⟨before, since, rfl, watched⟩ := ih client call own
        exact ⟨before, since ++ [move], by simp, watched.step step⟩
      · exact ⟨moves, [], rfl, watched_of_pick ran⟩

omit [DecidableEq κ] [Stored ρ (UnitRecord ν)] [Stored ρ (GroupRecord ν)] [Stored ρ (Sample ν)]
  [Stored ρ (Alert ν)] in
/-- Only rows of the given table go, and only those under the given keys. -/
theorem mem_keys_of_gone {place table : Table} {keys : List Nat} {store after : Store ρ}
    {result : Except StoreError Nat} {row : Row ρ}
    (ran : (Store.removePicked place keys).run.run store = (result, after))
    (there : row ∈ (store.logs.get table).rows) (gone : row ∉ (after.logs.get table).rows) :
    table = place ∧ row.key ∈ keys := by
  rw [Store.run_removePicked] at ran
  split at ran
  · cases ran
    exact absurd there gone
  · split at ran
    · cases ran
      exact absurd there gone
    · cases ran
      by_cases here : table = place
      · subst here
        refine ⟨rfl, ?_⟩
        by_contra other
        refine gone ?_
        rw [Store.withLog_logs, Tables.get_set_same]
        exact List.mem_filter.mpr ⟨there, by simpa using other⟩
      · rw [Store.withLog_logs, Tables.get_set_other _ _ here] at gone
        exact absurd there gone

/-- **Removal takes what is too old.** Clients append, clear and remove in any order, one access at a
time, and each access may be refused. A row that goes when a client carries out the second step of its
call was created before the cutoff of that call; unless the store issues keys again and did so for this
row, which was appended after the call's first step, and after other moves had cut the table back. -/
theorem removal_takes_stale {start : Store ρ} {moves : List (StoreMove ρ κ)}
    (reached : Reached ν start moves a) {client : κ} {call : Call} {result : Except StoreError Nat}
    (step : a.Step ν (.remove client call result) b) {table : Table} {row : Row ρ}
    (there : row ∈ (a.store.logs.get table).rows) (gone : row ∉ (b.store.logs.get table).rows) :
    table = call.table ∧
      (isStale (table.Record ν) call.cutoff row.value ∨
        start.keys = .afterLast ∧ ∃ before since,
          moves = before ++ .pick client table call.cutoff (.ok call.keys) :: since ∧
            AppendedAnew since table row) := by
  cases step with
  | remove own ran =>
      obtain ⟨rfl, picked⟩ := mem_keys_of_gone ran there gone
      obtain ⟨rule, calls⟩ := reached.watched
      obtain ⟨before, since, rfl, watched⟩ := calls client call own
      refine ⟨rfl, (watched.listed row there picked).imp_right fun ⟨afterLast, anew⟩ => ?_⟩
      exact ⟨rule.symm.trans afterLast, before, since, rfl, anew⟩

end Moves

/-! ### Three clients -/

/-- Rows that are records as they are. -/
inductive AnyRecord (ν : Type) where
  | unit (record : UnitRecord ν)
  | group (record : GroupRecord ν)
  | sample (record : Sample ν)
  | alert (record : Alert ν)

instance : Stored (AnyRecord ν) (UnitRecord ν) where
  write := .unit
  read? row := match row with | .unit record => some record | _ => none

instance : Stored (AnyRecord ν) (GroupRecord ν) where
  write := .group
  read? row := match row with | .group record => some record | _ => none

instance : Stored (AnyRecord ν) (Sample ν) where
  write := .sample
  read? row := match row with | .sample record => some record | _ => none

instance : Stored (AnyRecord ν) (Alert ν) where
  write := .alert
  read? row := match row with | .alert record => some record | _ => none

/-- A sample taken at the beginning of a day. -/
def sampleOn (day : Int) : Sample Nat where
  timestamp := .onDay day 0 0
  cpuPercent := 0
  memoryPercent := 0
  memoryBytes := 0
  eventLoopLagMs := 0

/-- The call of a client that has found the sample of day 1 too old on day 2. -/
def callOnDay2 : Call := { table := .samples, cutoff := .onDay 2 0 0, keys := [0] }

/-- One client appends the sample of day 1, another one finds it too old, and the first one appends the
sample of day 3. -/
def movesToDay3 : List (StoreMove (AnyRecord Nat) Char) :=
  [.append 'c' .samples (.sample (sampleOn 1)) (.ok 0),
    .pick 'a' .samples (.onDay 2 0 0) (.ok [0]),
    .append 'c' .samples (.sample (sampleOn 3)) (.ok 1)]

/-- In a store that never issues a key twice, the sample of day 1 goes then. -/
theorem removal_takes_stale_day1 :
    ∃ a b : SharedStore (AnyRecord Nat) Char, Reached Nat { keys := .counting } movesToDay3 a ∧
      a.Step Nat (.remove 'a' callOnDay2 (.ok 1)) b ∧
      ⟨0, .sample (sampleOn 1)⟩ ∈ (a.store.logs.get .samples).rows ∧
      ⟨0, .sample (sampleOn 1)⟩ ∉ (b.store.logs.get .samples).rows ∧
      isStale (Table.Record Nat .samples) callOnDay2.cutoff (AnyRecord.sample (sampleOn 1)) := by
  obtain ⟨a, b, reached, step, there, gone⟩ :
      ∃ a b : SharedStore (AnyRecord Nat) Char, Reached Nat { keys := .counting } movesToDay3 a ∧
        a.Step Nat (.remove 'a' callOnDay2 (.ok 1)) b ∧
        ⟨0, .sample (sampleOn 1)⟩ ∈ (a.store.logs.get .samples).rows ∧
        ⟨0, .sample (sampleOn 1)⟩ ∉ (b.store.logs.get .samples).rows :=
    ⟨_, _, ((Reached.start.step (.append rfl)).step (.pick rfl rfl)).step (.append rfl),
      .remove rfl rfl, List.mem_cons_of_mem _ (List.mem_singleton.mpr rfl),
      fun left => by cases List.mem_singleton.mp left⟩
  have stale := (removal_takes_stale reached step there gone).2.resolve_right (by simp)
  exact ⟨a, b, reached, step, there, gone, stale⟩

/-- **Removal takes what is new.** In a store that goes on from its last row, one client lists the sample
of day 1, another one clears the store, and a third one appends the sample of day 3, which stands under
the listed key. It is gone as soon as the first client goes on. -/
theorem removal_takes_fresh :
    ∃ a b : SharedStore (AnyRecord Nat) Char,
      Reached Nat { keys := .afterLast }
          [.append 'c' .samples (.sample (sampleOn 1)) (.ok 0),
            .pick 'a' .samples (.onDay 2 0 0) (.ok [0]),
            .clear 'b' (.ok ()),
            .append 'c' .samples (.sample (sampleOn 3)) (.ok 0)] a ∧
        a.Step Nat (.remove 'a' callOnDay2 (.ok 1)) b ∧
        ⟨0, .sample (sampleOn 3)⟩ ∈ (a.store.logs.get .samples).rows ∧
        ⟨0, .sample (sampleOn 3)⟩ ∉ (b.store.logs.get .samples).rows ∧
        callOnDay2.cutoff ≤ (sampleOn 3).timestamp :=
  ⟨_, _,
    (((Reached.start.step (.append rfl)).step (.pick rfl rfl)).step (.clear rfl)).step (.append rfl),
    .remove rfl rfl, List.mem_singleton.mpr rfl, List.not_mem_nil, by decide⟩

end SharedStore

end FlowAudit
