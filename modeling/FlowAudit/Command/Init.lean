import FlowAudit.Command.Session
import FlowAudit.Settings.Example

/-!
# FlowAudit.Command.Init

Writing a file of example settings into a folder. A file that is there already stays as it is.
-/

namespace FlowAudit.Command

open FlowAudit.Render

variable {m : Type → Type} [Monad m] [Host m]

/-- The mark before what went well. -/
def tick : Piece := green "✓"

/-- Write a file of example settings into a folder. -/
def initProject (folder : String) : TaskM m Unit := do
  if (← host (Host.look folder)) ≠ some .folder then throw (.notAFolder folder)
  let path := Path.join folder projectFile
  if (← host (Host.look path)).isSome then
    printPage (line [tick, " Config already exists at ", cyan path])
  else
    match ← host (Host.writeText path Settings.exampleText) with
    | .error fault => throw (.unwritten (.write path fault))
    | .ok () =>
      printPage (line [tick, " Created ", cyan path]
        ++ line ["\nNext: ", cyan "flowsentry scan <flows.json>"])

end FlowAudit.Command
