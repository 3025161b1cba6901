/-!
# FlowAudit.Workspace.Fault

Why a file cannot be read or written.
-/

namespace FlowAudit

/-- What is wrong with a file. -/
inductive FileFault where
  | missing
  /-- Its bytes are no UTF-8. -/
  | notText
  /-- A folder stands where a file should be. -/
  | isFolder
  /-- A file stands where a folder should be. -/
  | notAFolder
  /-- Its path, or a name in it, has more bytes than the system takes. -/
  | nameTooLong
  /-- Anything else, in the words of the system. -/
  | other (text : String)
  deriving Repr, DecidableEq

/-- The words for it. -/
def FileFault.message : FileFault → String
  | .missing => "No such file or directory (os error 2)"
  | .notText => "stream did not contain valid UTF-8"
  | .isFolder => "Is a directory (os error 21)"
  | .notAFolder => "Not a directory (os error 20)"
  | .nameTooLong => "File name too long (os error 36)"
  | .other text => text

/-- The text of a file, given its bytes if there is such a file. -/
def textOf : Option ByteArray → Except FileFault String
  | none => .error .missing
  | some bytes =>
    match String.fromUTF8? bytes with
    | some text => .ok text
    | none => .error .notText

end FlowAudit
