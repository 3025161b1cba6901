import FlowAudit.Log.Basic

/-!
# FlowAudit.Log.Store

A store of four logs. Actions on it may fail, and a failed action leaves the logs as they are at that
point; so an action is a program over the state of the store with errors on top, `StoreM`.

A store can refuse accesses. Which ones it refuses is part of the store and may depend on how many
accesses went before, so that every pattern of failures can be described.
-/

namespace FlowAudit

/-- The tables of a store. -/
inductive Table where
  | units
  | groups
  | samples
  | alerts
  deriving Repr, DecidableEq

def Table.all : List Table := [.units, .groups, .samples, .alerts]

def Table.name : Table → String
  | .units => "units"
  | .groups => "groups"
  | .samples => "samples"
  | .alerts => "alerts"

/-- One thing for every table. -/
structure Tables (α : Type) where
  units : α
  groups : α
  samples : α
  alerts : α
  deriving Repr, DecidableEq

namespace Tables

variable {α β : Type}

/-- The same thing for every table. -/
def fill (a : α) : Tables α := ⟨a, a, a, a⟩

def get (tables : Tables α) : Table → α
  | .units => tables.units
  | .groups => tables.groups
  | .samples => tables.samples
  | .alerts => tables.alerts

def set (tables : Tables α) (table : Table) (a : α) : Tables α :=
  match table with
  | .units => { tables with units := a }
  | .groups => { tables with groups := a }
  | .samples => { tables with samples := a }
  | .alerts => { tables with alerts := a }

def map (f : α → β) (tables : Tables α) : Tables β :=
  ⟨f tables.units, f tables.groups, f tables.samples, f tables.alerts⟩

@[simp]
theorem get_set_same (tables : Tables α) (table : Table) (a : α) :
    (tables.set table a).get table = a := by
  cases table <;> rfl

theorem get_set_other (tables : Tables α) {table other : Table} (a : α) (h : other ≠ table) :
    (tables.set table a).get other = tables.get other := by
  cases table <;> cases other <;> simp_all [set, get]

theorem set_set (tables : Tables α) (table : Table) (a b : α) :
    (tables.set table a).set table b = tables.set table b := by
  cases table <;> rfl

theorem set_get (tables : Tables α) (table : Table) :
    tables.set table (tables.get table) = tables := by
  cases table <;> rfl

@[simp]
theorem get_map (f : α → β) (tables : Tables α) (table : Table) :
    (tables.map f).get table = f (tables.get table) := by
  cases table <;> rfl

end Tables

/-- The number of rows of all tables together. -/
def Tables.total (counts : Tables Nat) : Nat :=
  counts.units + counts.groups + counts.samples + counts.alerts

/-- Why an action on a store fails. -/
inductive StoreError where
  /-- The store refused an access. -/
  | poisoned
  /-- A row is not the record that it should be. -/
  | undecodable
  /-- No store can be opened at the given place. -/
  | notAStore
  deriving Repr, DecidableEq

/-- The words for it. -/
def StoreError.message : StoreError → String
  | poisoned => "store lock poisoned"
  | undecodable => "a stored row does not decode"
  | notAStore => "not a store"

/-- The kinds of access that a store can refuse. -/
inductive Access where
  | append
  | read
  | remove
  deriving Repr, DecidableEq

/-- How a store walks back from its newest row, and counts. -/
inductive Traversal where
  /-- Row by row, from the newest one. -/
  | direct
  /-- By listing all rows first. -/
  | byListing
  deriving Repr, DecidableEq

/-- A store. -/
structure Store (ρ : Type) where
  keys : KeyRule
  traversal : Traversal := .direct
  logs : Tables (Log ρ) := .fill .empty
  /-- Whether an access of a kind to a table is refused, given the number of accesses before it. -/
  refuses : Nat → Access → Table → Bool := fun _ _ _ => false
  /-- The number of accesses so far. -/
  accesses : Nat := 0

/-- Actions on a store. -/
abbrev StoreM (ρ : Type) := ExceptT StoreError (StateM (Store ρ))

namespace Store

variable {ρ : Type}

/-- The result of an action that may fail, if it did not. -/
def attempt {α : Type} (action : StoreM ρ α) : StateM (Store ρ) (Option α) := do
  match ← action.run with
  | .ok a => return some a
  | .error _ => return none

/-- Access a table: its log, unless the store refuses. -/
def access (kind : Access) (table : Table) : StoreM ρ (Log ρ) := do
  let store ← get
  set { store with accesses := store.accesses + 1 }
  if store.refuses store.accesses kind table then throw .poisoned
  return store.logs.get table

/-- Replace the log of a table. -/
def replace (table : Table) (log : Log ρ) : StoreM ρ Unit :=
  modify fun store => { store with logs := store.logs.set table log }

/-- Append a value to a table; its key. -/
def append (table : Table) (value : ρ) : StoreM ρ Nat := do
  let log ← access .append table
  let rule := (← get).keys
  replace table (log.append rule value)
  return log.nextKey rule

/-- The rows of a table, oldest first. -/
def entries (table : Table) : StoreM ρ (List (Row ρ)) := do
  return (← access .read table).entries

/-- The values of a table, oldest first. -/
def values (table : Table) : StoreM ρ (List ρ) := do
  return (← entries table).map Row.value

/-- The values of a table, newest first. -/
def newestFirst (table : Table) : StoreM ρ (List ρ) := do
  let log ← access .read table
  match (← get).traversal with
  | .direct => return log.newestFirst
  | .byListing => return log.entries.reverse.map Row.value

/-- The number of rows of a table. -/
def count (table : Table) : StoreM ρ Nat := do
  let log ← access .read table
  match (← get).traversal with
  | .direct => return log.size
  | .byListing => return log.entries.length

/-- The number of rows of every table. -/
def counts : StoreM ρ (Tables Nat) := do
  return { units := ← count .units
           groups := ← count .groups
           samples := ← count .samples
           alerts := ← count .alerts }

/-- Remove the rows with the given keys from a table; how many there were. -/
def remove (table : Table) (keys : List Nat) : StoreM ρ Nat := do
  let log ← access .remove table
  replace table (log.remove keys)
  return log.size - (log.remove keys).size

/-- Remove all rows of all tables. -/
def clear : StoreM ρ Unit :=
  modify fun store => { store with logs := store.logs.map Log.clear }

end Store

end FlowAudit
