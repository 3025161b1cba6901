import FlowAudit.Log.JsonRow
import FlowAudit.Text.Path
import FlowAudit.Workspace.Fault

/-!
# FlowAudit.Workspace.Tree

Trees of files and folders. A place in a tree is the list of names that lead to it from the root,
which is a folder at all times. Following a path takes the names one after the other, so that every
name but the last one has to be that of a folder. Names and paths have a bounded number of bytes.
-/

namespace FlowAudit

/-- What stands at a place. -/
inductive Entry where
  | folder
  | text (text : String)
  /-- A file that holds a store. -/
  | store (store : Store Bytes)

/-- A place in a tree. -/
abbrev Place := List String

/-- The most bytes of a name. -/
def maxNameBytes : Nat := 255

/-- The most bytes of a path. -/
def maxPathBytes : Nat := 4095

/-- A tree of files and folders. -/
structure FileTree where
  entries : List (Place × Entry) := []

namespace FileTree

/-- What stands at a place. -/
def find? (tree : FileTree) (place : Place) : Option Entry :=
  if place = [] then some .folder else tree.entries.lookup place

/-- A tree with something else at a place. -/
def put (tree : FileTree) (place : Place) (entry : Entry) : FileTree where
  entries := (place, entry) :: tree.entries.filter (·.1 ≠ place)

/-- Follow names from a place on. What the last of them leads to need not be there. -/
def follow (tree : FileTree) (place : Place) : List String → Except FileFault Place
  | [] => .ok place
  | name :: rest =>
    match tree.find? place with
    | none => .error .missing
    | some .folder =>
      if name = "" ∨ name = "." then tree.follow place rest
      else if name = ".." then tree.follow place.dropLast rest
      else if name.utf8ByteSize > maxNameBytes then .error .nameTooLong
      else tree.follow (place ++ [name]) rest
    | some _ => .error .notAFolder

/-- The place that a path leads to, seen from a folder. -/
def locate (tree : FileTree) (here : Place) (path : String) : Except FileFault Place :=
  if path.utf8ByteSize > maxPathBytes then .error .nameTooLong
  else tree.follow (if Path.isAbsolute path then [] else here) (path.splitOn "/")

/-- What stands at a path. -/
def entryAt (tree : FileTree) (here : Place) (path : String) : Option Entry :=
  match tree.locate here path with
  | .ok place => tree.find? place
  | .error _ => none

/-- The text of a file. That of a store is no UTF-8. -/
def readText (tree : FileTree) (here : Place) (path : String) : Except FileFault String := do
  match tree.find? (← tree.locate here path) with
  | none => throw .missing
  | some .folder => throw .isFolder
  | some (.text text) => return text
  | some (.store _) => throw .notText

/-- Whether a file can be made at a path. -/
def placeForFile (tree : FileTree) (here : Place) (path : String) : Except FileFault Place := do
  let place ← tree.locate here path
  match tree.find? place with
  | some .folder => throw .isFolder
  | some _ => return place
  | none => if Path.isFolderLike path then throw .isFolder else return place

/-- A tree with a text written to a file. -/
def writeText (tree : FileTree) (here : Place) (path text : String) : Except FileFault FileTree := do
  return tree.put (← tree.placeForFile here path) (.text text)

/-- Make the folders that names lead through from a place on, where they are missing, until a file is
in the way. -/
def makeFolders (tree : FileTree) (place : Place) : List String → FileTree
  | [] => tree
  | name :: rest =>
    if name = ".." then tree.makeFolders place.dropLast rest
    else
      let next := place ++ [name]
      match tree.find? next with
      | none => (tree.put next .folder).makeFolders next rest
      | some .folder => tree.makeFolders next rest
      | some _ => tree

/-- Make the folder that a file is to stand in, unless there is something at its path. -/
def makeParent (tree : FileTree) (here : Place) (path : String) : FileTree :=
  let folder := Path.parent path
  if folder = "" || (tree.entryAt here folder).isSome then tree
  else tree.makeFolders (if Path.isAbsolute folder then [] else here) (Path.names folder)

/-- A tree with a file of text, and the folders that it stands in. -/
def addFile (tree : FileTree) (here : Place) (path text : String) : FileTree :=
  (tree.makeParent here path).put (here ++ Path.names path) (.text text)

end FileTree

end FlowAudit
