/-
  Decoding a reply's payload into an event.

  Only a payload that is no object can fail to decode, and for the error list not even that: a
  payload that is no list counts as an empty one.
-/
import DaemonWatch.DriveEvent
import DaemonWatch.Notice
import DaemonWatch.TransferStatus

namespace DaemonWatch

/-- What the daemon told in reply to a query. -/
inductive Event
  | drive (e : DriveEvent)
  | notification (n : Notification)
  | status (s : TransferStatus)
  | errors (es : List SyncError)
  deriving Repr, DecidableEq

namespace Event

/-- What is said about a payload that should have been an object. -/
def notAnObject (q : Query) : String := q.payloadName ++ " payload is not a JSON object"

/-- What is logged about a drive event as it is read. -/
def driveNotices (e : DriveEvent) : List Notice :=
  if e.isUnknown then [.unknownDriveEvent e.kind] else []

/-- What is logged about an error list as it is read. -/
def errorListNotices (payload : Json) : List Notice :=
  if SyncError.isListPayload payload then [] else [.errorListNotArray]

/-- The event of a payload, read at the time `now` without asking whether it is an object, and what
is logged on the way. -/
def read (now : Int) (q : Query) (payload : Json) : List Notice × Event :=
  match q with
  | .events =>
    let e := DriveEvent.ofPayload payload
    (driveNotices e, .drive e)
  | .notification => ([], .notification (Notification.ofPayload payload))
  | .status => ([], .status (TransferStatus.ofPayload payload))
  | .errors => (errorListNotices payload, .errors (SyncError.listOfPayload now payload))

/-- The event of a reply's payload, or what is said when there is none. -/
def decode (now : Int) (q : Query) (payload : Json) : List Notice × Except String Event :=
  if q ≠ .errors && !payload.isObject then ([], .error (notAnObject q))
  else
    let (notices, event) := read now q payload
    (notices, .ok event)

end Event

end DaemonWatch
