/-
  The transfer status of the daemon.  The rate shown is the one reported while it is syncing, and
  zero while it is idle.
-/
import DaemonWatch.Payload

namespace DaemonWatch

/-- Whether the daemon is syncing, and the bytes it sends and receives. -/
structure TransferStatus where
  isSyncing : Bool
  sentBytes : Nat
  receivedBytes : Nat
  deriving Repr, DecidableEq

namespace TransferStatus

/-- The status of a payload. -/
def ofPayload (payload : Json) : TransferStatus :=
  { isSyncing := Payload.flag payload "is_syncing"
    sentBytes := Payload.byteCount payload "sent_bytes"
    receivedBytes := Payload.byteCount payload "recv_bytes" }

/-- The payload of a status. -/
def toPayload (s : TransferStatus) : Json :=
  .ofMembers
    [("is_syncing", .bool s.isSyncing), ("sent_bytes", .ofInt s.sentBytes),
     ("recv_bytes", .ofInt s.receivedBytes)]

/-- The bytes sent and received as they are shown. -/
def displayedRate (s : TransferStatus) : Nat × Nat :=
  if s.isSyncing then (s.sentBytes, s.receivedBytes) else (0, 0)

end TransferStatus

end DaemonWatch
