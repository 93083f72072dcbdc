/-
  The texts that users see.
-/
import DaemonWatch.DeleteSummary
import DaemonWatch.Notification
import DaemonWatch.Text.Path

namespace DaemonWatch.Wording

open Text

/-- A text between quotation marks. -/
def quote (s : String) : String := "\"" ++ s ++ "\""

/-! ## Libraries -/

/-- The title when all libraries are loaded. -/
def loadedTitle : String := "Libraries are ready"

/-- The body when all libraries are loaded. -/
def loadedBody : String := "All libraries are loaded and ready to use."

/-- The title for a finished sync. -/
def synchronizedTitle (repoName : String) : String := quote repoName ++ " is synchronized"

/-- The title for an upload under way. -/
def uploadingTitle (repoName : String) : String := quote repoName ++ " is being uploaded"

/-- The title for a sync error: it names the library, or else the base of the path, or else
nothing. -/
def syncErrorTitle (repoName path : String) : String :=
  let subject := if repoName.isEmpty then Path.base path else repoName
  if subject.isEmpty then "Error when syncing" else "Error when syncing " ++ quote subject

/-! ## Moves -/

/-- How a move's message begins. -/
def moveOpening : MoveStage → String
  | .start => "Starting to move "
  | .done => "Successfully moved "
  | .failed => "Failed to move "

/-- The title and the body for a move. -/
def move (stage : MoveStage) (source destination : String) : String × String :=
  let title := moveOpening stage ++ quote (Path.base source)
  (title, title ++ " to " ++ quote (Path.parent destination ++ "/"))

/-! ## Deletions -/

/-- The question's text for a deletion of files: the summary's sentence, or nothing. -/
def deleteFilesText (summary : String) : String :=
  match DeleteSummary.ofText? summary with
  | some s => String.ofList (DeleteSummary.sentence s.name.toList s.count.toList)
  | none => ""

/-- The question for a deletion of files. -/
def deleteFilesQuestion (repoName : String) : String :=
  "Do you want to delete files in library " ++ quote (trimString repoName) ++ " ?"

/-- The question's text for a deletion of a library. -/
def deleteRepoText (repoName : String) : String :=
  "Deleted library " ++ quote (trimString repoName)

/-- The question for a deletion of a library. -/
def deleteRepoQuestion (repoName : String) : String :=
  "Confirm to delete library " ++ quote (trimString repoName) ++ " ?"

/-! ## The drive -/

/-- The title of download messages. -/
def downloadTitle : String := "Download file"

/-- The body when a download starts. -/
def downloadStarted (path : String) : String :=
  "Start to download file " ++ quote (Path.base path) ++ " "

/-- The body when a download is finished. -/
def downloadFinished (path : String) : String :=
  "file " ++ quote (Path.base path) ++ " has been downloaded "

/-- The title and the body when a file cannot be created in the root. -/
def createRootFileFailed (path : String) : String × String :=
  ("Failed to create file " ++ quote (Path.base path),
   "You can't create files in the mount folder directly")

/-- The title and the body when a library cannot be deleted in the mount. -/
def removeRepoRefused (path : String) : String × String :=
  ("Failed to delete folder",
   "You can't delete the library " ++ quote (Path.base path) ++ " directly")

/-! ## Answers -/

/-- Whether an answer says yes: `y` or `yes`, blanks around it and case aside. -/
def isAffirmative (answer : List Char) : Bool :=
  let word := (trim answer).map Char.toLower
  word = ['y'] || word = ['y', 'e', 's']

end DaemonWatch.Wording
