/-
  The log.  A `Notice` is what is logged; `entry` puts it into words.
-/
import DaemonWatch.Failure
import DaemonWatch.Notification
import DaemonWatch.Query
import DaemonWatch.SyncError
import DaemonWatch.TrayMessage

namespace DaemonWatch

/-! ## Entries -/

/-- The level of a log entry. -/
inductive Level
  | info
  | warn
  deriving Repr, DecidableEq

/-- The value of a field of a log entry. -/
inductive FieldValue
  | text (s : String)
  | flag (b : Bool)
  deriving Repr, DecidableEq

/-- A log entry. -/
structure LogEntry where
  level : Level
  message : String
  fields : List (String × FieldValue)
  deriving Repr, DecidableEq

/-! ## Notices -/

/-- Something that is worth logging. -/
inductive Notice
  | unknownDriveEvent (kind : String)
  | errorListNotArray
  | unknownNotification (kind : String)
  | librariesLoaded
  | undecodable (query : Query) (error : String)
  | confirmationFailed (id : String) (cancelled : Bool) (failure : Failure)
  | linkFailed (action : Action) (repoId path : String) (failure : Failure)
  | resumed
  | connectionLost (method : String) (failure : Failure)
  | trayMessage (message : TrayMessage)
  | trayWarning (title body : String)
  | activityChanged (syncing : Bool)
  | outstandingError (error : SyncError)
  | noOutstandingErrors
  deriving Repr, DecidableEq

namespace Notice

/-- The log entry of a notice. -/
def entry : Notice → LogEntry
  | unknownDriveEvent kind => ⟨.warn, "Unknown type of drive event", [("kind", .text kind)]⟩
  | errorListNotArray => ⟨.warn, "sync error list is not an array, treating as empty", []⟩
  | unknownNotification kind => ⟨.warn, "Unknown message", [("kind", .text kind)]⟩
  | librariesLoaded => ⟨.info, "All libraries are loaded", []⟩
  | undecodable query error =>
    ⟨.warn, "Failed to decode daemon reply",
      [("kind", .text query.payloadName), ("error", .text error)]⟩
  | confirmationFailed id cancelled failure =>
    ⟨.warn, "Failed to send delete confirmation",
      [("confirmation", .text id), ("cancelled", .flag cancelled),
       ("error", .text failure.message)]⟩
  | linkFailed action repoId path failure =>
    ⟨.warn, "Link command failed",
      [("kind", .text action.kind), ("repo", .text repoId), ("path", .text path),
       ("error", .text failure.message)]⟩
  | resumed => ⟨.info, "daemon restarted, resuming message poller", []⟩
  | connectionLost method failure =>
    ⟨.warn, "Lost connection to the sync daemon",
      [("method", .text method), ("error", .text failure.message)]⟩
  | trayMessage m =>
    ⟨match m.severity with
      | .information => .info
      | .warning => .warn,
     m.body, [("title", .text m.title), ("repo", .text (m.repoId.getD ""))]⟩
  | trayWarning title body => ⟨.warn, body, [("title", .text title)]⟩
  | activityChanged syncing => ⟨.info, "Sync activity changed", [("syncing", .flag syncing)]⟩
  | outstandingError e =>
    ⟨.warn, e.description,
      [("repo", .text e.repoName), ("path", .text e.path), ("when", .text e.ageLabel)]⟩
  | noOutstandingErrors => ⟨.info, "No outstanding sync errors", []⟩

end Notice

end DaemonWatch
