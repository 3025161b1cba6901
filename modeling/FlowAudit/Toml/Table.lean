import FlowAudit.Toml.Value

/-!
# FlowAudit.Toml.Table

Putting tables together from keys and headers. Keys may be dotted, and then create tables on their
way; headers may come in any order. A document must not say the same thing twice: `TableKind` keeps
how a table came about, which decides what may still be added to it.
-/

namespace FlowAudit.Toml

/-- How a table came about. -/
inductive TableKind where
  /-- By a header of its own, or as a value. -/
  | headed
  /-- On the way to a table with a longer header. -/
  | passed
  /-- By dotted keys. -/
  | dotted
  deriving Repr, DecidableEq

/-- What stands under a key while a document is being read. -/
inductive Node where
  | value (value : Value)
  | table (kind : TableKind) (entries : List (String × Node))
  /-- The tables of one repeated header. -/
  | tables (all : List (List (String × Node)))

/-- The entries of a table. -/
abbrev Entries := List (String × Node)

namespace Entries

/-- What stands under a key. -/
def find (entries : Entries) (key : String) : Option Node :=
  (List.find? (·.1 == key) entries).map (·.2)

/-- Put something under a key, in place of what is there. -/
def put (entries : Entries) (key : String) (node : Node) : Entries :=
  entries.filter (·.1 != key) ++ [(key, node)]

/-- Put a new value under a key. It may be dotted, and then `path` is the part before the last dot;
`isDotted` tells whether some of it has been followed, and `kind` is the kind of the table reached.
Dotted keys may only add to tables that dotted keys made. -/
def insertValue (kind : TableKind) (isDotted : Bool) (key : String) (value : Value) :
    List String → Entries → Option Entries
  | [], entries =>
    if (kind == .dotted) != isDotted then none
    else if (entries.find key).isSome then none
    else some (entries.put key (.value value))
  | step :: path, entries =>
    match entries.find step with
    | none => do
      let inner ← insertValue .dotted true key value path []
      return entries.put step (.table .dotted inner)
    | some (.table .headed _) | some (.value _) => none
    | some (.table kind inner) => do
      let inner ← insertValue kind true key value path inner
      return entries.put step (.table kind inner)
    | some (.tables all) => do
      let inner ← insertValue .headed true key value path (all.getLast?.getD [])
      return entries.put step (.tables (all.dropLast ++ [inner]))

/-- Change the table that a path leads to. Tables that are not there yet are made on the way; of
repeated tables the last one is taken. -/
def changeAt (change : Entries → Option Entries) : List String → Entries → Option Entries
  | [], entries => change entries
  | step :: path, entries =>
    match entries.find step with
    | none => do
      let inner ← changeAt change path []
      return entries.put step (.table .passed inner)
    | some (.value _) => none
    | some (.table kind inner) => do
      let inner ← changeAt change path inner
      return entries.put step (.table kind inner)
    | some (.tables all) => do
      let inner ← changeAt change path (all.getLast?.getD [])
      return entries.put step (.tables (all.dropLast ++ [inner]))

end Entries

mutual

/-- The value that something stands for. -/
def Node.toValue : Node → Value
  | .value value => value
  | .table _ entries => .table (entryValues entries)
  | .tables all => .array (tableValues all)

def entryValues : List (String × Node) → List (String × Value)
  | [] => []
  | (key, node) :: rest => (key, node.toValue) :: entryValues rest

def tableValues : List (List (String × Node)) → List Value
  | [] => []
  | entries :: rest => .table (entryValues entries) :: tableValues rest

end

/-- A key with its value: the parts of the key before its last dot, the last one, and the value. -/
structure Setting where
  path : List String
  key : String
  value : Value

/-- The entries with settings put into a table of a kind. -/
def Entries.insertAll (settings : List Setting) (entries : Entries) : Option Entries :=
  settings.foldlM (fun entries s => entries.insertValue .headed false s.key s.value s.path) entries

/-- The table that stands between braces. -/
def inlineTable? (settings : List Setting) : Option Value := do
  return .table (entryValues (← Entries.insertAll settings []))

/-- A header with the settings under it. -/
structure Section where
  path : List String
  key : String
  /-- Whether the header is one of several of the same name. -/
  repeats : Bool
  settings : List Setting

/-- A document with one more section. -/
def Section.addTo (part : Section) : Entries → Option Entries :=
  Entries.changeAt (fun parent => do
    match part.repeats, parent.find part.key with
    | false, none => return parent.put part.key (.table .headed (← Entries.insertAll part.settings []))
    | false, some (.table .passed entries) =>
      return parent.put part.key (.table .headed (← Entries.insertAll part.settings entries))
    | true, none => return parent.put part.key (.tables [← Entries.insertAll part.settings []])
    | true, some (.tables all) =>
      return parent.put part.key (.tables (all ++ [← Entries.insertAll part.settings []]))
    | _, some _ => none) part.path

/-- The table that a document is, given the settings before the first header and the sections. -/
def document? (settings : List Setting) (sections : List Section) :
    Option (List (String × Value)) := do
  let root ← Entries.insertAll settings []
  return entryValues (← sections.foldlM (fun entries part => part.addTo entries) root)

end FlowAudit.Toml
