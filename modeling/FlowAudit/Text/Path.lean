/-!
# FlowAudit.Text.Path

Paths of files as text, with a slash between their parts. Joining normalises nothing.
-/

namespace FlowAudit.Path

/-- Whether a path stands alone, whatever it is joined to. -/
def isAbsolute (path : String) : Bool :=
  path.startsWith "/"

/-- A path within another one. An absolute path stays as it is; an empty one leaves the slash. -/
def join (base path : String) : String :=
  if isAbsolute path then path
  else if base.isEmpty || base.endsWith "/" then base ++ path
  else base ++ "/" ++ path

/-- The names in a path, without those that stay where they are. -/
def names (path : String) : List String :=
  ((path.splitOn "/").filter fun name => name ≠ "" ∧ name ≠ ".")

/-- Whether a path can only be that of a folder. -/
def isFolderLike (path : String) : Bool :=
  match (path.splitOn "/").getLast? with
  | some last => last = "" || last = "." || last = ".."
  | none => true

/-- The folder that the last name of a path stands in, as a path. It is empty for a single name. -/
def parent (path : String) : String :=
  (if isAbsolute path then "/" else "") ++ String.intercalate "/" (names path).dropLast

end FlowAudit.Path
