/-
  The daemon's list of outstanding sync errors.
-/
import DaemonWatch.Age
import DaemonWatch.ErrorCode
import DaemonWatch.Payload

namespace DaemonWatch

/-- An outstanding error: what the daemon sent, the description of its code, and a label that tells
how long ago it happened. -/
structure SyncError where
  id : Int
  repoId : String
  repoName : String
  path : String
  errorId : Int
  timestamp : Int
  description : String
  ageLabel : String
  deriving Repr, DecidableEq

namespace SyncError

/-- The error of an entry, read at the time `now`. -/
def ofPayload (now : Int) (entry : Json) : SyncError :=
  let path := Payload.text entry "path"
  let errorId := Payload.integer entry "err_id"
  let timestamp := Payload.integer entry "timestamp"
  { id := Payload.integer entry "id"
    repoId := Payload.text entry "repo_id"
    repoName := Payload.text entry "repo_name"
    path := path
    errorId := errorId
    timestamp := timestamp
    description := ErrorCode.describe errorId path
    ageLabel := Age.label now timestamp }

/-- The errors of a list; entries that are not objects are dropped, and a payload that is no list
has none. -/
def listOfPayload (now : Int) : Json → List SyncError
  | .array entries => (entries.filter Json.isObject).map (ofPayload now)
  | _ => []

/-- Whether a payload is an acceptable error list: a list, or nothing. -/
def isListPayload : Json → Bool
  | .array _ => true
  | .null => true
  | _ => false

end SyncError

end DaemonWatch
