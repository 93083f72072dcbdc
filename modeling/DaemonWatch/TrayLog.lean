/-
  A tray that writes to the log.

  Messages are logged as they come.  Activity is logged when it changes.  The error list is
  logged when it changes by more than the age of its errors; the list last shown is kept in any
  case, so ages do not add up to a change.
-/
import DaemonWatch.Notice

namespace DaemonWatch

/-- What the tray shows: whether the daemon is syncing, and the outstanding errors. -/
structure TrayLog where
  syncing : Bool := false
  errors : List SyncError := []
  deriving Repr, DecidableEq

namespace TrayLog

/-- Whether two errors are one and the same, however old. -/
def sameError (a b : SyncError) : Bool :=
  a.id = b.id && a.repoId = b.repoId && a.path = b.path && a.errorId = b.errorId
    && a.timestamp = b.timestamp

/-- Whether two lists hold the same errors in the same order. -/
def sameErrors : List SyncError → List SyncError → Bool
  | [], [] => true
  | a :: as, b :: bs => sameError a b && sameErrors as bs
  | _, _ => false

/-- Shows a message. -/
def message (m : TrayMessage) : List Notice := [.trayMessage m]

/-- Shows a warning. -/
def warning (title body : String) : List Notice := [.trayWarning title body]

/-- Shows whether the daemon is syncing. -/
def rotate (t : TrayLog) (active : Bool) : List Notice × TrayLog :=
  (if t.syncing = active then [] else [.activityChanged active], { t with syncing := active })

/-- What is logged about a list that has changed. -/
def listNotices (errors : List SyncError) : List Notice :=
  if errors = [] then [.noOutstandingErrors] else errors.map .outstandingError

/-- Shows a list of errors in place of the last one. -/
def showErrors (t : TrayLog) (errors : List SyncError) : List Notice × TrayLog :=
  (if sameErrors t.errors errors then [] else listNotices errors, { t with errors := errors })

end TrayLog

end DaemonWatch
