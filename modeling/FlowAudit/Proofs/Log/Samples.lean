import FlowAudit.Health.Window
import FlowAudit.Proofs.Log.Actions
import FlowAudit.Proofs.Time.Order
import Mathlib.Data.List.Forall2

/-!
# FlowAudit.Proofs.Log.Samples

**Stopping early loses nothing.** A query for samples walks back from the newest row and stops at the
first sample that is too old. When all rows hold samples, in the order of time, it finds what reading
everything finds, in the same order (`SampleLog.run_samplesBetween`, `SampleLog.run_loadBetween`).

What lies behind the first sample that is too old does not matter at all, and need not even be
readable (`collectSamples_append`).
-/

namespace FlowAudit

variable {ρ ν α : Type}

/-! ### Rows that are read -/

/-- Rows that hold the records of a list, one each and in the same order. -/
def Hold [Stored ρ α] (rows : List ρ) (records : List α) : Prop :=
  List.Forall₂ (fun row record => Stored.read? row = some record) rows records

/-- Rows that are samples and alerts themselves. -/
instance : Stored (Sample ν ⊕ Alert ν) (Sample ν) := ⟨Sum.inl, Sum.getLeft?⟩

instance : Stored (Sample ν ⊕ Alert ν) (Alert ν) := ⟨Sum.inr, Sum.getRight?⟩

theorem readRow_of_read [Stored ρ α] {row : ρ} {record : α} (read : Stored.read? row = some record) :
    readRow row = .ok record := by
  rw [readRow, read]

/-- Rows are read as the records that they hold. -/
theorem readRows_of_hold [Stored ρ α] {rows : List ρ} {records : List α} (hold : Hold rows records) :
    readRows rows = .ok records := by
  induction hold with
  | nil => rfl
  | cons read _ ih =>
      unfold readRows at ih ⊢
      rw [List.mapM_cons, readRow_of_read read, ih]
      rfl

/-- Rows that are all read hold what they are read as. -/
theorem hold_of_readRows [Stored ρ α] {rows : List ρ} {records : List α}
    (read : readRows rows = .ok records) : Hold rows records := by
  unfold readRows at read
  induction rows generalizing records with
  | nil =>
      cases read
      exact .nil
  | cons row rest ih =>
      rw [List.mapM_cons] at read
      cases first : (Stored.read? row : Option α) with
      | none =>
          rw [readRow, first] at read
          cases read
      | some record =>
          rw [readRow_of_read first] at read
          cases later : rest.mapM (readRow (ρ := ρ) (α := α)) with
          | error failure =>
              rw [later] at read
              cases read
          | ok others =>
              rw [later] at read
              cases read
              exact .cons first (ih later)

theorem Hold.reverse [Stored ρ α] {rows : List ρ} {records : List α} (hold : Hold rows records) :
    Hold rows.reverse records.reverse :=
  List.forall₂_reverse_iff.mpr hold

theorem Hold.take [Stored ρ α] {rows : List ρ} {records : List α} (hold : Hold rows records)
    (count : Nat) : Hold (rows.take count) (records.take count) :=
  List.forall₂_take count hold

namespace Store

/-- A store does not refuse to read a table next. -/
def Answers (store : Store ρ) (table : Table) : Prop :=
  store.refuses store.accesses .read table = false

theorem Answers.not_refuses {store : Store ρ} {table : Table} (answers : store.Answers table) :
    ¬ store.refuses store.accesses .read table := by
  rw [answers]
  exact Bool.false_ne_true

variable [Stored ρ α] {store : Store ρ} {table : Table} {records : List α}

theorem run_load (answers : store.Answers table)
    (hold : Hold (store.logs.get table).newestFirst.reverse records) :
    (load table : StoreM ρ (List α)).run.run store = (.ok records, store.touched) := by
  unfold load
  rw [run_bind, run_values, if_neg answers.not_refuses, ← readRows_of_hold hold]
  exact run_lift _ _

/-- A query that reads a table once answers from its records alone. -/
theorem run_query {β : Type} (answers : store.Answers table)
    (hold : Hold (store.logs.get table).newestFirst.reverse records) (answer : List α → β) :
    (do return answer (← load table) : StoreM ρ β).run.run store =
      (.ok (answer records), store.touched) := by
  rw [run_bind, run_load answers hold]
  exact run_pure _ _

theorem run_newest (answers : store.Answers table) {count : Nat} (some : count ≠ 0)
    (read : readRows ((store.logs.get table).newestFirst.take count) = .ok records) :
    (newest table count : StoreM ρ (List α)).run.run store = (.ok records, store.touched) := by
  unfold newest
  rw [if_neg some, run_bind, run_newestFirst, if_neg answers.not_refuses, ← read]
  exact run_lift _ _

end Store

/-! ### Samples in the order of time -/

/-- Samples from the oldest on. Samples of one time may come in any order. -/
def InOrder (samples : List (Sample ν)) : Prop :=
  samples.Pairwise fun earlier later => earlier.timestamp ≤ later.timestamp

instance (samples : List (Sample ν)) : Decidable (InOrder samples) :=
  inferInstanceAs (Decidable (List.Pairwise _ _))

theorem InOrder.filter {samples : List (Sample ν)} (order : InOrder samples)
    (test : Sample ν → Bool) : InOrder (samples.filter test) :=
  List.Pairwise.filter test order

/-- Sorting by time leaves samples as they are that are in order. -/
theorem InOrder.mergeSort_eq {samples : List (Sample ν)} (order : InOrder samples) :
    samples.mergeSort (fun a b => a.timestamp ≤ b.timestamp) = samples :=
  List.mergeSort_of_pairwise (order.imp fun earlier => decide_eq_true earlier)

theorem createdBetween_of_inOrder {samples : List (Sample ν)} (order : InOrder samples)
    (low high : Instant) :
    createdBetween low high samples = samples.filter fun s => s.timestamp.between low high :=
  (order.filter fun s => s.timestamp.between low high).mergeSort_eq

theorem inWindow_of_inOrder {samples : List (Sample ν)} (order : InOrder samples) (window : Span)
    (now : Instant) :
    inWindow samples window now =
      samples.filter fun s => s.timestamp.between (now.windowStart window) now :=
  createdBetween_of_inOrder order _ _

/-- A window within the samples of a longer one is that window of all samples. -/
theorem inWindow_inWindow {samples : List (Sample ν)} (order : InOrder samples) {long short : Span}
    {now : Instant} (longer : now.windowStart long ≤ now.windowStart short) :
    inWindow (inWindow samples long now) short now = inWindow samples short now := by
  rw [inWindow_of_inOrder order, inWindow_of_inOrder order, inWindow_of_inOrder (order.filter _),
    List.filter_filter]
  refine List.filter_congr fun s _ => ?_
  rw [Bool.eq_iff_iff, Bool.and_eq_true]
  constructor
  · intro both
    exact both.1
  · intro within
    refine ⟨within, ?_⟩
    rw [Instant.between_iff] at within ⊢
    exact ⟨Instant.le_trans longer within.1, within.2⟩

/-! ### Walking back -/

variable [Stored ρ (Sample ν)]

theorem collectSamples_cons {low high : Instant} {row : ρ} {sample : Sample ν}
    (read : Stored.read? row = some sample) (older : List ρ) (found : List (Sample ν)) :
    collectSamples low high (row :: older) found =
      if sample.timestamp < low then .ok found
      else if sample.timestamp ≤ high then collectSamples low high older (sample :: found)
      else collectSamples low high older found := by
  rw [collectSamples, readRow_of_read read]
  rfl

/-- **A walk back over samples in order finds all of a time.** At the first sample that is too old all
others are too. -/
theorem collectSamples_of_hold {low high : Instant} {rows : List ρ} {newest : List (Sample ν)}
    (hold : Hold rows newest)
    (order : newest.Pairwise fun later earlier => earlier.timestamp ≤ later.timestamp)
    (found : List (Sample ν)) :
    collectSamples low high rows found =
      .ok ((newest.filter fun s => s.timestamp.between low high).reverse ++ found) := by
  induction hold generalizing found with
  | nil => rfl
  | @cons row sample older samples read _ ih =>
      obtain ⟨latest, order⟩ := List.pairwise_cons.mp order
      rw [collectSamples_cons read]
      by_cases old : sample.timestamp < low
      · have none : (sample :: samples).filter (fun s => s.timestamp.between low high) = [] := by
          rw [List.filter_eq_nil_iff]
          intro s member within
          have before : s.timestamp ≤ sample.timestamp := by
            rcases List.mem_cons.mp member with rfl | member
            · exact Instant.le_refl _
            · exact latest s member
          rw [Instant.between_iff] at within
          exact Instant.not_lt.mpr (Instant.le_trans within.1 before) old
        rw [if_pos old, none]
        rfl
      · rw [if_neg old, List.filter_cons]
        have low : low ≤ sample.timestamp := Instant.not_lt.mp old
        by_cases within : sample.timestamp ≤ high
        · rw [if_pos within, ih order, if_pos (Instant.between_iff.mpr ⟨low, within⟩),
            List.reverse_cons, List.append_assoc, List.singleton_append]
        · rw [if_neg within, ih order, if_neg fun both => within (Instant.between_iff.mp both).2]

/-- A walk back that comes to a sample that is too old does not see what lies behind it. -/
theorem collectSamples_append {low high : Instant} {older : List ρ}
    (old : ∀ row ∈ older.head?, ∃ s : Sample ν, Stored.read? row = some s ∧ s.timestamp < low)
    (rows : List ρ) (found : List (Sample ν)) :
    collectSamples low high (rows ++ older) found = collectSamples low high rows found := by
  induction rows generalizing found with
  | nil =>
      cases older with
      | nil => rfl
      | cons row rest =>
          obtain ⟨s, read, early⟩ := old row rfl
          rw [List.nil_append, collectSamples_cons read, if_pos early, collectSamples]
  | cons row rest ih =>
      rw [List.cons_append, collectSamples, collectSamples]
      simp only [ih]

namespace Store

/-- The answer to a question that takes one reading of the samples: `a`, unless that is refused. -/
def sampleAnswer (store : Store ρ) (a : α) : Except StoreError α × Store ρ :=
  if store.refuses store.accesses .read .samples then (.error .poisoned, store.touched)
  else (.ok a, store.touched)

theorem run_samplesBetween (low high : Instant) (store : Store ρ) :
    (samplesBetween low high : StoreM ρ (List (Sample ν))).run.run store =
      if store.refuses store.accesses .read .samples then (.error .poisoned, store.touched)
      else (collectSamples low high (store.logs.get .samples).newestFirst [], store.touched) := by
  unfold samplesBetween
  rw [run_bind, run_newestFirst]
  by_cases refused : store.refuses store.accesses .read .samples
  · rw [if_pos refused, if_pos refused]
  · rw [if_neg refused, if_neg refused]
    exact run_lift _ _

theorem run_map_of_answer {β : Type} {action : StoreM ρ α} {store : Store ρ} {a : α}
    (answered : action.run.run store = store.sampleAnswer a) (f : α → β) :
    (action >>= fun a => pure (f a) : StoreM ρ β).run.run store = store.sampleAnswer (f a) := by
  rw [run_bind, answered]
  unfold sampleAnswer
  by_cases refused : store.refuses store.accesses .read .samples
  · rw [if_pos refused, if_pos refused]
  · rw [if_neg refused, if_neg refused]
    exact run_pure _ _

/-- A store whose table of samples holds the samples of a list and no other rows, oldest first and in
the order of time. -/
structure SampleLog (store : Store ρ) (samples : List (Sample ν)) : Prop where
  read : readRows (store.logs.get .samples).newestFirst.reverse = .ok samples
  inOrder : InOrder samples

namespace SampleLog

variable {store : Store ρ} {samples : List (Sample ν)}

theorem touched (log : store.SampleLog samples) : store.touched.SampleLog samples :=
  ⟨log.read, log.inOrder⟩

theorem hold (log : store.SampleLog samples) :
    Hold (store.logs.get .samples).newestFirst samples.reverse := by
  have hold := (hold_of_readRows log.read).reverse
  rwa [List.reverse_reverse] at hold

/-- **The walk back that stops early** finds the samples of a time, oldest first. -/
theorem run_samplesBetween (log : store.SampleLog samples) (low high : Instant) :
    (samplesBetween low high).run.run store = store.sampleAnswer (createdBetween low high samples) := by
  have newestFirst : samples.reverse.Pairwise fun later earlier =>
      earlier.timestamp ≤ later.timestamp := List.pairwise_reverse.mpr log.inOrder
  rw [Store.run_samplesBetween, collectSamples_of_hold log.hold newestFirst,
    createdBetween_of_inOrder log.inOrder, List.filter_reverse, List.reverse_reverse,
    List.append_nil]
  rfl

/-- Reading everything, keeping the samples of a time and sorting them finds the same. -/
theorem run_loadBetween (log : store.SampleLog samples) (low high : Instant) :
    (loadBetween .samples low high).run.run store =
      store.sampleAnswer (createdBetween low high samples) := by
  unfold loadBetween
  refine run_map_of_answer ?_ _
  unfold load sampleAnswer
  rw [run_bind, run_values]
  by_cases refused : store.refuses store.accesses .read .samples
  · rw [if_pos refused, if_pos refused]
  · rw [if_neg refused, if_neg refused, ← log.read]
    exact run_lift _ _

end SampleLog

end Store

end FlowAudit
