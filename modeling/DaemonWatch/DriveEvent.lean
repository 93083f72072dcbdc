/-
  Events of the virtual drive: downloads, and operations that the mount refuses.

  The type of an event decides which of the two it is; an event of any other type is neither.

  The refused operation is not a field of its own: it is the one that the type names
  (`DriveEvent.refusal?`), as in every event that is read from a payload.  An event put together by
  hand, with another operation than that of its type, is therefore no `DriveEvent`.
-/
import DaemonWatch.Payload

namespace DaemonWatch

/-- How far a download has come. -/
inductive DownloadStage
  | started
  | finished
  deriving Repr, DecidableEq

/-- An operation that the mount refuses. -/
inductive Refusal
  | createRootFile
  | removeRepo
  deriving Repr, DecidableEq

/-- An event of the drive, with the type as the daemon sent it; all else about it follows from the
type. -/
structure DriveEvent where
  kind : String
  path : String
  deriving Repr, DecidableEq

namespace DownloadStage

/-- The download stage of an event type. -/
def ofKind? (kind : String) : Option DownloadStage :=
  if kind = "file-download.start" then some .started
  else if kind = "file-download.done" then some .finished
  else none

end DownloadStage

namespace Refusal

/-- The refusal of an event type. -/
def ofKind? (kind : String) : Option Refusal :=
  if kind = "fs_op_error.create_root_file" then some .createRootFile
  else if kind = "fs_op_error.remove_repo" then some .removeRepo
  else none

end Refusal

namespace DriveEvent

/-- The event of a payload. -/
def ofPayload (payload : Json) : DriveEvent :=
  { kind := Payload.text payload "type", path := Payload.text payload "path" }

/-- The download that the event reports. -/
def download? (e : DriveEvent) : Option DownloadStage := DownloadStage.ofKind? e.kind

/-- The refusal that the event reports. -/
def refusal? (e : DriveEvent) : Option Refusal := Refusal.ofKind? e.kind

/-- Whether the event reports neither a download nor a refusal. -/
def isUnknown (e : DriveEvent) : Bool := e.download?.isNone && e.refusal?.isNone

end DriveEvent

end DaemonWatch
