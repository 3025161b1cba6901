/-!
# FlowAudit.Log.Basic

Append-only logs. A log holds rows under ascending keys; appending issues a new key, and rows are
only ever removed, never changed. What is known of the keys is part of the type: they fall from the
newest row to the oldest, and all of them lie below `bound`.

Two rules say which key comes next. A counting log never issues a key twice; a log that goes on from
its last row starts over when it is empty.
-/

namespace FlowAudit

/-- Which key an appended row gets. -/
inductive KeyRule where
  /-- One more than any key issued before. -/
  | counting
  /-- One more than the key of the last row, zero in an empty log. -/
  | afterLast
  deriving Repr, DecidableEq

/-- A value under its key. -/
structure Row (ρ : Type) where
  key : Nat
  value : ρ
  deriving Repr, DecidableEq

/-- An append-only log. -/
structure Log (ρ : Type) where
  /-- The rows, newest first. -/
  rows : List (Row ρ) := []
  /-- A number above all keys issued so far. -/
  bound : Nat := 0
  descending : rows.Pairwise fun newer older => older.key < newer.key := by simp
  below : ∀ row ∈ rows, row.key < bound := by simp

namespace Log

variable {ρ : Type}

/-- A log without rows that goes on counting from a bound. -/
def emptyFrom (bound : Nat) : Log ρ where
  bound

/-- A log without rows. -/
def empty : Log ρ :=
  emptyFrom 0

/-- The key that the next row gets. -/
def nextKey (rule : KeyRule) (log : Log ρ) : Nat :=
  match rule, log.rows with
  | .counting, _ => log.bound
  | .afterLast, [] => 0
  | .afterLast, last :: _ => last.key + 1

/-- The next key is above all keys in the log. -/
theorem key_lt_nextKey (rule : KeyRule) (log : Log ρ) :
    ∀ row ∈ log.rows, row.key < log.nextKey rule := by
  intro row member
  cases rule with
  | counting => exact log.below row member
  | afterLast =>
    have sorted := log.descending
    unfold nextKey
    cases rows : log.rows with
    | nil => simp [rows] at member
    | cons last rest =>
      rw [rows] at member sorted
      rcases List.mem_cons.mp member with rfl | older
      · exact Nat.lt_succ_self _
      · exact Nat.lt_succ_of_lt ((List.pairwise_cons.mp sorted).1 row older)

/-- Append a value under the next key. -/
def append (rule : KeyRule) (log : Log ρ) (value : ρ) : Log ρ where
  rows := { key := log.nextKey rule, value } :: log.rows
  bound := log.nextKey rule + 1
  descending := List.pairwise_cons.mpr ⟨log.key_lt_nextKey rule, log.descending⟩
  below := by
    intro row member
    rcases List.mem_cons.mp member with rfl | older
    · exact Nat.lt_succ_self _
    · exact Nat.lt_succ_of_lt (log.key_lt_nextKey rule row older)

/-- Keep the rows for which a test holds. -/
def keep (test : Row ρ → Bool) (log : Log ρ) : Log ρ where
  rows := log.rows.filter test
  bound := log.bound
  descending := log.descending.filter _
  below := fun row member => log.below row ((List.mem_filter.mp member).1)

/-- Remove the rows with the given keys; keys that are not there do not matter. -/
def remove (keys : List Nat) (log : Log ρ) : Log ρ :=
  log.keep fun row => !keys.contains row.key

/-- Remove all rows. -/
def clear (log : Log ρ) : Log ρ :=
  emptyFrom log.bound

/-- The rows, oldest first. -/
def entries (log : Log ρ) : List (Row ρ) :=
  log.rows.reverse

/-- The values, newest first. -/
def newestFirst (log : Log ρ) : List ρ :=
  log.rows.map Row.value

/-- The number of rows. -/
def size (log : Log ρ) : Nat :=
  log.rows.length

@[simp]
theorem entries_append (rule : KeyRule) (log : Log ρ) (value : ρ) :
    (log.append rule value).entries =
      log.entries ++ [{ key := log.nextKey rule, value }] := by
  simp [entries, append]

@[simp]
theorem entries_keep (test : Row ρ → Bool) (log : Log ρ) :
    (log.keep test).entries = log.entries.filter test := by
  simp [entries, keep]

@[simp]
theorem entries_clear (log : Log ρ) : log.clear.entries = [] := rfl

end Log

end FlowAudit
