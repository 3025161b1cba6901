import FlowAudit.Health.Alert
import FlowAudit.Log.Store
import FlowAudit.Record.Group

/-!
# FlowAudit.Log.Query

Records in a store. A record is written as a row, and a row is read back as a record, in the way that
`Stored` says; a row that is no record makes the query fail that comes across it. Records are never
changed, so "the latest" of several with the same identity is the one appended last.

Samples are appended in the order of time. `samplesBetween` relies on it and walks back from the
newest sample to the first one that is too old; everything before that one is not even looked at.
-/

namespace FlowAudit

/-- How records of a type are written as rows and read back. -/
class Stored (ρ α : Type) where
  write : α → ρ
  read? : ρ → Option α

/-- A type of records with a time of creation. -/
class Timestamped (α : Type) where
  createdAt : α → Instant

export Timestamped (createdAt)

variable {ρ ν α : Type}

instance : Timestamped (UnitRecord ν) := ⟨UnitRecord.createdAt⟩
instance : Timestamped (GroupRecord ν) := ⟨GroupRecord.createdAt⟩
instance : Timestamped (Sample ν) := ⟨Sample.timestamp⟩
instance : Timestamped (Alert ν) := ⟨Alert.createdAt⟩

/-- The record that a row holds. -/
def readRow [Stored ρ α] (row : ρ) : Except StoreError α :=
  match Stored.read? row with
  | some record => .ok record
  | none => .error .undecodable

/-- The records that rows hold, as long as all of them do. -/
def readRows [Stored ρ α] (rows : List ρ) : Except StoreError (List α) :=
  rows.mapM readRow

/-- Put a record in the place of the one with the same key, or at the end. -/
def putLatest {κ : Type} [DecidableEq κ] (key : α → κ) (record : α) : List α → List α
  | [] => [record]
  | other :: rest =>
    if key other = key record then record :: rest else other :: putLatest key record rest

/-- The last record of every key, in the order in which the keys first occur. -/
def latestBy {κ : Type} [DecidableEq κ] (key : α → κ) (records : List α) : List α :=
  records.foldl (fun latest record => putLatest key record latest) []

/-- The records created from one instant to another, oldest first. -/
def createdBetween [Timestamped α] (low high : Instant) (records : List α) : List α :=
  (records.filter fun r => (createdAt r).between low high).mergeSort
    fun a b => createdAt a ≤ createdAt b

/-- The samples taken from one instant to another, given the rows of all samples from the newest on.
They are put before those already found. -/
def collectSamples [Stored ρ (Sample ν)] (low high : Instant) :
    List ρ → List (Sample ν) → Except StoreError (List (Sample ν))
  | [], found => .ok found
  | row :: older, found => do
    let sample : Sample ν ← readRow row
    if sample.timestamp < low then return found
    else if sample.timestamp ≤ high then collectSamples low high older (sample :: found)
    else collectSamples low high older found

/-- The keys of the rows created before an instant, as long as all rows hold records. -/
def staleKeys (α : Type) [Stored ρ α] [Timestamped α] (cutoff : Instant) :
    List (Row ρ) → Except StoreError (List Nat)
  | [] => .ok []
  | row :: rest => do
    let record : α ← readRow row.value
    let keys ← staleKeys α cutoff rest
    return if createdAt record < cutoff then row.key :: keys else keys

namespace Store

/-- Append a record to a table. -/
def insert [Stored ρ α] (table : Table) (record : α) : StoreM ρ Unit := do
  let _ ← append table (Stored.write record)

def insertUnit [Stored ρ (UnitRecord ν)] (unit : UnitRecord ν) : StoreM ρ Unit :=
  insert .units unit

def insertGroup [Stored ρ (GroupRecord ν)] (group : GroupRecord ν) : StoreM ρ Unit :=
  insert .groups group

def insertSample [Stored ρ (Sample ν)] (sample : Sample ν) : StoreM ρ Unit :=
  insert .samples sample

def insertAlert [Stored ρ (Alert ν)] (alert : Alert ν) : StoreM ρ Unit :=
  insert .alerts alert

/-- All records of a table, oldest first. -/
def load [Stored ρ α] (table : Table) : StoreM ρ (List α) := do
  readRows (← values table)

/-- The newest records of a table, newest first. Rows before them are not read, and no row is when
none is asked for. -/
def newest [Stored ρ α] (table : Table) (count : Nat) : StoreM ρ (List α) :=
  if count = 0 then return []
  else do readRows ((← newestFirst table).take count)

/-- The records of a table created from one instant to another, oldest first. -/
def loadBetween [Stored ρ α] [Timestamped α] (table : Table) (low high : Instant) :
    StoreM ρ (List α) := do
  return createdBetween low high (← load table)

/-- The latest record of a group. -/
def latestGroup [Stored ρ (GroupRecord ν)] (id : String) : StoreM ρ (Option (GroupRecord ν)) := do
  let groups : List (GroupRecord ν) ← load .groups
  return groups.reverse.find? (·.id = id)

/-- The latest record of every group, ordered by name, and by identifier among equal names. -/
def latestGroups [Stored ρ (GroupRecord ν)] : StoreM ρ (List (GroupRecord ν)) := do
  let groups : List (GroupRecord ν) ← load .groups
  return (latestBy GroupRecord.id groups).mergeSort fun a b =>
    a.name < b.name || (a.name = b.name && a.id ≤ b.id)

/-- The latest record of a unit. -/
def latestUnit [Stored ρ (UnitRecord ν)] (id : String) : StoreM ρ (Option (UnitRecord ν)) := do
  let units : List (UnitRecord ν) ← load .units
  return units.reverse.find? (·.id = id)

/-- The latest record of every unit of a group, in the order in which they first occur. -/
def latestUnits [Stored ρ (UnitRecord ν)] (group : String) : StoreM ρ (List (UnitRecord ν)) := do
  let units : List (UnitRecord ν) ← load .units
  return latestBy UnitRecord.id (units.filter (·.groupId = group))

/-- The sample appended last. -/
def latestSample [Stored ρ (Sample ν)] : StoreM ρ (Option (Sample ν)) := do
  return (← newest .samples 1).head?

/-- The samples taken from one instant to another, oldest first. -/
def samplesBetween [Stored ρ (Sample ν)] (low high : Instant) : StoreM ρ (List (Sample ν)) := do
  collectSamples low high (← newestFirst .samples) []

/-- The last samples, newest first. -/
def recentSamples [Stored ρ (Sample ν)] (count : Nat) : StoreM ρ (List (Sample ν)) :=
  newest .samples count

/-- The last alerts, newest first. -/
def recentAlerts [Stored ρ (Alert ν)] (count : Nat) : StoreM ρ (List (Alert ν)) :=
  newest .alerts count

/-- Remove the records of a table created before an instant; how many there were. All rows are read
before any is removed, so a row that is no record keeps everything in place. -/
def deleteBefore (α : Type) [Stored ρ α] [Timestamped α] (table : Table) (cutoff : Instant) :
    StoreM ρ Nat := do
  let keys ← staleKeys α cutoff (← entries table)
  if keys.isEmpty then return 0 else remove table keys

end Store

end FlowAudit
