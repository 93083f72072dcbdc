/-
  The four queries that are put to the daemon, in the order of every tick.
-/

namespace DaemonWatch

/-- A query for what the daemon has to tell. -/
inductive Query
  | events
  | notification
  | status
  | errors
  deriving Repr, DecidableEq

namespace Query

/-- All queries, in the order of a tick. -/
def all : List Query := [events, notification, status, errors]

/-- The query that follows in a tick. -/
def next? : Query → Option Query
  | events => some notification
  | notification => some status
  | status => some errors
  | errors => none

/-- What the payload of the reply is called. -/
def payloadName : Query → String
  | events => "events"
  | notification => "notification"
  | status => "globalSyncStatus"
  | errors => "syncErrors"

/-- The daemon's method. -/
def method : Query → String
  | events => "seafile_get_events_notification"
  | notification => "seafile_get_sync_notification"
  | status => "seafile_get_global_sync_status"
  | errors => "seafile_get_sync_errors"

end Query

end DaemonWatch
