import FlowAudit.Json.Value
import FlowAudit.Record.Unit
import FlowAudit.Workspace.Fault

/-!
# FlowAudit.Export.Basic

Flow exports. An export is a JSON array of nodes, or an object that has one under `flows`. A node of
type `tab` is a group. A node of type `function` is a unit: its source stands under `func` and its
group under `z`. Other nodes, and those that lack something they need, are passed over; an empty text
is as good as none.
-/

namespace FlowAudit

open Json

/-- A group of units as an export gives it. -/
structure GroupInfo where
  id : String
  name : String
  deriving Repr, DecidableEq

/-- Why an export gives no groups or units. -/
inductive ExportError where
  /-- The file cannot be read. -/
  | read (path : String) (fault : FileFault)
  /-- The file is not JSON. -/
  | parse (path : String)
  /-- The file is JSON, but no export. -/
  | format (path reason : String)
  /-- A source other than a file failed. -/
  | source (text : String)
  deriving Repr, DecidableEq

/-- The words for it. -/
def ExportError.message : ExportError → String
  | read path fault => "failed to read flow file " ++ path ++ ": " ++ fault.message
  | parse path => "invalid JSON in flow file " ++ path
  | format path reason => path ++ " is not a flow export: " ++ reason
  | source text => "collector failed: " ++ text

namespace Export

/-- The text that a node has under a key, unless it is empty. -/
def text? (node : Value) (key : String) : Option String := do
  let text ← (← node.get? key).string?
  if text.isEmpty then none else return text

/-- The beginning of an identifier, for names. -/
def shortId (id : String) : String :=
  String.ofList (id.toList.take 8)

/-- The group that a node is. -/
def group? (node : Value) : Option GroupInfo := do
  guard ((← text? node "type") = "tab")
  let id ← text? node "id"
  let name := (text? node "label").or (text? node "name")
  return { id, name := name.getD ("Flow " ++ shortId id) }

/-- The unit that a node is. -/
def unit? (node : Value) : Option SourceUnit := do
  guard ((← text? node "type") = "function")
  let id ← text? node "id"
  let source ← text? node "func"
  let groupId ← text? node "z"
  let name := (text? node "name").getD ("Function Node " ++ shortId id)
  return { groupId, id, name, source }

/-- The nodes of an export. `path` is only for the error. -/
def nodes (path : String) (document : Value) : Except ExportError (List Value) :=
  match document with
  | .array nodes => .ok nodes
  | .object _ =>
    match document.get? "flows" with
    | some (.array nodes) => .ok nodes
    | _ => .error (.format path "expected an array of nodes or a `flows` array")
  | _ => .error (.format path "expected an array of nodes")

/-- The nodes of an export, given the text of its file. -/
def nodesOfText (path : String) (text : Except FileFault String) :
    Except ExportError (List Value) :=
  match text with
  | .error fault => .error (.read path fault)
  | .ok text =>
    match (parse? (Text.spelling text)).bind Tree.toValue? with
    | none => .error (.parse path)
    | some document => nodes path document

end Export

/-- The groups and units of a source, each of which it may fail to give. -/
structure Export where
  groups : Except ExportError (List GroupInfo)
  units : Except ExportError (List SourceUnit)

namespace Export

/-- The export in a file. -/
def ofFile (path : String) (text : Except FileFault String) : Export where
  groups := (nodesOfText path text).map (·.filterMap group?)
  units := (nodesOfText path text).map (·.filterMap unit?)

/-- The first unit with an identifier. -/
def findUnit (export_ : Export) (id : String) : Except ExportError (Option SourceUnit) :=
  export_.units.map (·.find? (·.id = id))

end Export

end FlowAudit
