import FlowAudit.Log.JsonRow
import FlowAudit.Text.Hex

/-!
# FlowAudit.Log.File

Stores as text, for files. After a first line that says what the file is, every row has a line with
its table, its key and its bytes, the rows of a table from the oldest to the newest.
-/

namespace FlowAudit

open Text

namespace Log

variable {ρ : Type}

/-- Put a row after all others, if its key is above theirs. -/
def push? (log : Log ρ) (row : Row ρ) : Option (Log ρ) :=
  if h : log.bound ≤ row.key then
    some {
      rows := row :: log.rows
      bound := row.key + 1
      descending := List.pairwise_cons.mpr
        ⟨fun older member => Nat.lt_of_lt_of_le (log.below older member) h, log.descending⟩
      below := by
        intro other member
        rcases List.mem_cons.mp member with rfl | older
        · exact Nat.lt_succ_self _
        · exact Nat.lt_succ_of_lt (Nat.lt_of_lt_of_le (log.below other older) h) }
  else none

end Log

namespace Store

/-- The first line of a file. -/
def fileHeading : String := "flowsentry store 1"

/-- The line of a row. -/
def fileLine (table : Table) (row : Row Bytes) : String :=
  table.name ++ " " ++ Nat.repr row.key ++ " " ++ String.ofList (hexOfBytes row.value.toList)

/-- A store as the text of a file. -/
def toFileText (store : Store Bytes) : String :=
  let lines := Table.all.flatMap fun table =>
    (store.logs.get table).entries.map (fileLine table)
  String.join ((fileHeading :: lines).map (· ++ "\n"))

/-- The row that a line stands for. -/
def rowOfLine? (line : String) : Option (Table × Row Bytes) :=
  match line.splitOn " " with
  | [name, key, digits] => do
    let table ← Table.all.find? (·.name = name)
    let key ← key.toNat?
    let value ← byteArrayOfHex? digits
    return (table, { key, value })
  | _ => none

/-- Logs with the row of one more line. -/
def addLine? (logs : Tables (Log Bytes)) (line : String) : Option (Tables (Log Bytes)) := do
  let (table, row) ← rowOfLine? line
  return logs.set table (← (logs.get table).push? row)

/-- The store in the text of a file. An empty file holds an empty store. -/
def ofFileText? (text : String) : Option (Store Bytes) := do
  match text.splitOn "\n" with
  | [""] => return { keys := .afterLast }
  | heading :: lines =>
    guard (heading = fileHeading)
    let logs ← (lines.filter (· ≠ "")).foldlM addLine? (.fill .empty)
    return { keys := .afterLast, logs }
  | [] => none

end Store

end FlowAudit
