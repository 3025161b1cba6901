import FlowAudit.Proofs.Log.Removal

/-!
# FlowAudit.Proofs.Log.Alike

**No action can tell apart stores that hold the same values.** Two stores are `Alike` when their
tables hold the same values in the same order and they refuse the same accesses; the keys of their
rows, the rule that issues keys and the way they are walked through may differ. A program is
`Uniform` when on alike stores it gives the same result, failures included, and leaves alike stores.
Every action that does not hand out keys is uniform, and programs made of uniform ones are.
-/

namespace FlowAudit

variable {ρ α β : Type}

/-- Two stores with the same values and the same refusals. -/
structure Alike (a b : Store ρ) : Prop where
  refuses : a.refuses = b.refuses
  accesses : a.accesses = b.accesses
  values : ∀ table, (a.logs.get table).newestFirst = (b.logs.get table).newestFirst

/-- The same result, and alike stores after it. -/
def Agree (x y : α × Store ρ) : Prop :=
  x.1 = y.1 ∧ Alike x.2 y.2

/-- A program for which alike stores are as good as one. -/
def Uniform (program : StateM (Store ρ) α) : Prop :=
  ∀ a b, Alike a b → Agree (program.run a) (program.run b)

namespace Alike

variable {a b : Store ρ}

theorem touched (h : Alike a b) : Alike a.touched b.touched where
  refuses := h.refuses
  accesses := congrArg (· + 1) h.accesses
  values := h.values

theorem withLog (h : Alike a b) (table : Table) {log log' : Log ρ}
    (same : log.newestFirst = log'.newestFirst) :
    Alike (a.withLog table log) (b.withLog table log') where
  refuses := h.refuses
  accesses := h.accesses
  values other := by
    rw [Store.withLog_logs, Store.withLog_logs]
    by_cases here : other = table
    · rw [here, Tables.get_set_same, Tables.get_set_same, same]
    · rw [Tables.get_set_other _ _ here, Tables.get_set_other _ _ here, h.values]

end Alike

theorem Agree.ite {x x' y y' : α × Store ρ} (p : Prop) [Decidable p] (left : Agree x x')
    (right : Agree y y') : Agree (if p then x else y) (if p then x' else y') := by
  by_cases holds : p
  · rw [if_pos holds, if_pos holds]
    exact left
  · rw [if_neg holds, if_neg holds]
    exact right

namespace Uniform

/-! ### Programs made of uniform ones -/

theorem pure (result : α) : Uniform (pure result : StateM (Store ρ) α) :=
  fun _ _ h => ⟨rfl, h⟩

theorem bind {program : StateM (Store ρ) α} {next : α → StateM (Store ρ) β}
    (first : Uniform program) (second : ∀ result, Uniform (next result)) :
    Uniform (program >>= next) := by
  intro a b h
  obtain ⟨same, alike⟩ := first a b h
  rw [StateT.run_bind, StateT.run_bind]
  show Agree ((next (program.run a).1).run (program.run a).2) _
  rw [same]
  exact second _ _ _ alike

theorem mapM {steps : α → StateM (Store ρ) β} (each : ∀ item, Uniform (steps item))
    (items : List α) : Uniform (items.mapM steps) := by
  induction items with
  | nil => exact pure []
  | cons item rest ih =>
      rw [List.mapM_cons]
      exact bind (each item) fun _ => bind ih fun _ => pure _

/-- A result that is known beforehand is the same on all stores. -/
theorem lift (result : Except StoreError α) : Uniform (liftM result : StoreM ρ α).run :=
  fun _ _ h => ⟨rfl, h⟩

/-- A failure of the first action is the failure of both. -/
theorem andThen {action : StoreM ρ α} {next : α → StoreM ρ β} (first : Uniform action.run)
    (second : ∀ result, Uniform (next result).run) : Uniform (action >>= next).run := by
  rw [ExceptT.run_bind]
  refine first.bind fun result => ?_
  cases result with
  | ok value => exact second value
  | error failure => exact pure _

end Uniform

namespace Store

/-! ### Uniform actions -/

theorem uniform_values (table : Table) : Uniform (values table : StoreM ρ (List ρ)).run := by
  intro a b h
  rw [run_values, run_values, ← h.refuses, ← h.accesses, ← h.values]
  exact .ite _ ⟨rfl, h.touched⟩ ⟨rfl, h.touched⟩

theorem uniform_newestFirst (table : Table) :
    Uniform (newestFirst table : StoreM ρ (List ρ)).run := by
  intro a b h
  rw [run_newestFirst, run_newestFirst, ← h.refuses, ← h.accesses, ← h.values]
  exact .ite _ ⟨rfl, h.touched⟩ ⟨rfl, h.touched⟩

theorem uniform_count (table : Table) : Uniform (count table : StoreM ρ Nat).run := by
  intro a b h
  rw [run_count, run_count, ← h.refuses, ← h.accesses, ← Log.length_newestFirst,
    ← Log.length_newestFirst, ← h.values]
  exact .ite _ ⟨rfl, h.touched⟩ ⟨rfl, h.touched⟩

/-- An append is uniform as long as nobody looks at the key. -/
theorem uniform_append (table : Table) (value : ρ) (result : α) :
    Uniform (do let _ ← append table value; return result : StoreM ρ α).run := by
  intro a b h
  rw [run_bind, run_bind, run_append, run_append, ← h.refuses, ← h.accesses]
  -- The new rows have different keys, and the tables hold the same values all the same.
  have after : Alike
      (a.touched.withLog table ((a.logs.get table).append a.keys value))
      (b.touched.withLog table ((b.logs.get table).append b.keys value)) :=
    h.touched.withLog table (congrArg (value :: ·) (h.values table))
  by_cases refused : a.refuses a.accesses .append table
  · rw [if_pos refused, if_pos refused]
    exact ⟨rfl, h.touched⟩
  · rw [if_neg refused, if_neg refused]
    exact ⟨rfl, after⟩

theorem uniform_insert [Stored ρ α] (table : Table) (record : α) :
    Uniform (insert table record : StoreM ρ Unit).run :=
  uniform_append table (Stored.write record) ()

theorem uniform_clear : Uniform (clear : StoreM ρ Unit).run := by
  intro a b h
  rw [run_clear, run_clear]
  refine ⟨rfl, h.refuses, h.accesses, fun table => ?_⟩
  rw [Tables.get_map, Tables.get_map]
  rfl

variable [Stored ρ α]

/-- Which rows go, and how many, is a matter of the values alone. -/
theorem uniform_deleteBefore [Timestamped α] (table : Table) (cutoff : Instant) :
    Uniform (deleteBefore α table cutoff : StoreM ρ Nat).run := by
  intro a b h
  rw [run_deleteBefore, run_deleteBefore, ← h.refuses, ← h.accesses, ← h.values]
  have kept : ((a.logs.get table).keep fun row => !isStale α cutoff row.value).newestFirst =
      ((b.logs.get table).keep fun row => !isStale α cutoff row.value).newestFirst := by
    rw [Log.newestFirst_keep (!isStale α cutoff ·), Log.newestFirst_keep (!isStale α cutoff ·),
      h.values]
  exact .ite _ ⟨rfl, h.touched⟩ <| .ite _
    (.ite _ (.ite _ ⟨rfl, h.touched.touched⟩ ⟨rfl, h.touched.touched.withLog table kept⟩)
      ⟨rfl, h.touched⟩)
    ⟨rfl, h.touched⟩

theorem uniform_load (table : Table) : Uniform (load table : StoreM ρ (List α)).run :=
  (uniform_values table).andThen fun _ => .lift _

theorem uniform_newest (table : Table) (count : Nat) :
    Uniform (newest table count : StoreM ρ (List α)).run := by
  unfold newest
  by_cases nothing : count = 0
  · rw [if_pos nothing]
    exact .pure (Except.ok _)
  · rw [if_neg nothing]
    exact (uniform_newestFirst table).andThen fun _ => .lift _

/-- A query that works on what is loaded is uniform. -/
theorem uniform_load_map (table : Table) (answer : List α → β) :
    Uniform (do return answer (← load table) : StoreM ρ β).run :=
  (uniform_load table).andThen fun _ => .pure (Except.ok _)

end Store

end FlowAudit
