/-
  What an event leads to.

  1. **Reactions** (`Reaction`): what is shown and logged at once, and the errand that is left to
     run, if any.

  2. **The rule** (`Event.react`, `Notification.react`).  It depends on the event and on two
     settings, and on nothing that happened before: whether finished syncs and uploads are
     announced, and whether errors about paths that Windows cannot hold are hidden.

  3. **The memo** (`Memo`, `Event.remember`) is kept beside the rule, which does not look at it.
-/
import DaemonWatch.CommitDescription
import DaemonWatch.Effect
import DaemonWatch.Event
import DaemonWatch.Wording

namespace DaemonWatch

/-- The user's settings. -/
structure Preferences where
  announceSyncs : Bool := true
  hideWindowsPaths : Bool := false
  deriving Repr, DecidableEq

/-- The last drive event, and the type of the last download event. -/
structure Memo where
  path : String := ""
  kind : String := ""
  deriving Repr, DecidableEq

/-- What is left to do after an event: ask the user about a deletion and report the answer, or run a
link command. -/
inductive FollowUp
  | askUser (confirmationId text question : String)
  | runLink (request : ActionRequest)
  deriving Repr, DecidableEq

/-- What an event leads to. -/
structure Reaction where
  outputs : List Output := []
  followUp : Option FollowUp := none
  deriving Repr, DecidableEq

namespace Reaction

/-- Shows a message and nothing else. -/
def message (m : TrayMessage) : Reaction := { outputs := [.effect (.message m)] }

/-- Asks the user and nothing else. -/
def ask (confirmationId text question : String) : Reaction :=
  { followUp := some (.askUser confirmationId text question) }

end Reaction

/-! ## Notifications -/

namespace Notification

/-- The message about a commit. -/
def commitMessage (title : String) (c : Commit) : TrayMessage :=
  (TrayMessage.withRepo { title := title, body := CommitDescription.shown c.description }
    c.repoId).withCommit c.commitId c.parentCommitId

/-- The message about a sync error. -/
def errorMessage (c : Commit) (path description : String) : TrayMessage :=
  TrayMessage.withRepo
    { title := Wording.syncErrorTitle c.repoName path, body := description, severity := .warning }
    c.repoId

/-- The code of the errors that can be hidden. -/
def hideableCode : Int := ErrorCode.invalidPathOnWindows.number

/-- What a notification leads to. -/
def react (p : Preferences) : Notification → Reaction
  | syncDone c =>
    if p.announceSyncs then .message (commitMessage (Wording.synchronizedTitle c.repoName) c)
    else {}
  | syncError c errorId path description =>
    if errorId = hideableCode && p.hideWindowsPaths then {}
    else .message (errorMessage c path description)
  | multipartUpload c =>
    if p.announceSyncs then .message (commitMessage (Wording.uploadingTitle c.repoName) c)
    else {}
  | filesystemLoaded _ =>
    { outputs :=
        [.effect (.message { title := Wording.loadedTitle, body := Wording.loadedBody }),
         .notice .librariesLoaded, .filesystemLoaded] }
  | move stage source destination =>
    let (title, body) := Wording.move stage source destination
    .message { title := title, body := body }
  | deleteFiles id repoName summary =>
    .ask id (Wording.deleteFilesText summary) (Wording.deleteFilesQuestion repoName)
  | deleteRepo id repoName =>
    .ask id (Wording.deleteRepoText repoName) (Wording.deleteRepoQuestion repoName)
  | action request => { followUp := some (.runLink request) }
  | unknown kind _ => { outputs := [.notice (.unknownNotification kind)] }

end Notification

/-! ## The other events -/

namespace DriveEvent

/-- What a drive event shows. -/
def shown (e : DriveEvent) : List Effect :=
  match e.download?, e.refusal? with
  | some .started, _ =>
    [.message { title := Wording.downloadTitle, body := Wording.downloadStarted e.path }]
  | some .finished, _ =>
    [.message { title := Wording.downloadTitle, body := Wording.downloadFinished e.path }]
  | none, some .createRootFile =>
    let (title, body) := Wording.createRootFileFailed e.path
    [.warning title body]
  | none, some .removeRepo =>
    let (title, body) := Wording.removeRepoRefused e.path
    [.warning title body]
  | none, none => []

/-- The memo after a drive event: every event leaves its path, a download also its type. -/
def remember (e : DriveEvent) (memo : Memo) : Memo :=
  { path := e.path, kind := if e.download?.isSome then e.kind else memo.kind }

end DriveEvent

/-- What a status shows. -/
def TransferStatus.shown (s : TransferStatus) : List Effect :=
  [.rotate s.isSyncing, .rate s.displayedRate.1 s.displayedRate.2]

/-! ## Events -/

namespace Event

/-- What an event leads to. -/
def react (p : Preferences) : Event → Reaction
  | drive e => { outputs := e.shown.map .effect }
  | notification n => n.react p
  | status s => { outputs := s.shown.map .effect }
  | errors es => { outputs := [.effect (.errors es)] }

/-- The memo after an event. -/
def remember (memo : Memo) : Event → Memo
  | drive e => e.remember memo
  | _ => memo

end Event

end DaemonWatch
