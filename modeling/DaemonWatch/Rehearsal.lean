/-
  A daemon that plays from a script.

  Each query has its own queue of replies, the reports of the user's answers have one of
  outcomes, and whether the daemon counts as connected is given answer by answer, then for
  good.  A query whose queue is used up comes back empty; a report without an outcome succeeds.
-/
import DaemonWatch.Channel

namespace DaemonWatch

/-- The script of a daemon. -/
structure Rehearsal where
  connected : Bool := true
  connections : List Bool := []
  events : List (Timed (Except Failure Json)) := []
  notification : List (Timed (Except Failure Json)) := []
  status : List (Timed (Except Failure Json)) := []
  errors : List (Timed (Except Failure Json)) := []
  reports : List (Option Failure) := []

namespace Rehearsal

/-- The queue of a query. -/
def queue (r : Rehearsal) : Query → List (Timed (Except Failure Json))
  | .events => r.events
  | .notification => r.notification
  | .status => r.status
  | .errors => r.errors

/-- The script with another queue for a query. -/
def withQueue (r : Rehearsal) (q : Query) (replies : List (Timed (Except Failure Json))) :
    Rehearsal :=
  match q with
  | .events => { r with events := replies }
  | .notification => { r with notification := replies }
  | .status => { r with status := replies }
  | .errors => { r with errors := replies }

/-- Whether the daemon counts as connected this time. -/
def takeConnected (r : Rehearsal) : Bool × Rehearsal :=
  match r.connections with
  | [] => (r.connected, r)
  | c :: rest => (c, { r with connections := rest })

/-- The next reply to a query. -/
def takeReply (r : Rehearsal) (q : Query) : Reply Json × Rehearsal :=
  match r.queue q with
  | [] => ({ result := .error (.emptyReply q.method) }, r)
  | reply :: rest => ({ result := reply.value, delay := reply.delay }, r.withQueue q rest)

/-- The outcome of the next report. -/
def takeReport (r : Rehearsal) : Reply Unit × Rehearsal :=
  match r.reports with
  | [] => ({ result := .ok () }, r)
  | none :: rest => ({ result := .ok () }, { r with reports := rest })
  | some f :: rest => ({ result := .error f }, { r with reports := rest })

instance : Channel Rehearsal where
  connected _ r := r.takeConnected
  query q _ r := r.takeReply q
  confirm _ _ _ r := r.takeReport

end Rehearsal

end DaemonWatch
