/-
  JSON values.

  An object's members are sorted by key and no key repeats: `object` values are built by
  `ofMembers`, which lets the last of several members with one key win.  Keys are compared by code
  points, which is also the order of their bytes.
-/
import DaemonWatch.Json.Number

namespace DaemonWatch

/-- A JSON value. -/
inductive Json
  | null
  | bool (b : Bool)
  | number (x : Json.Number)
  | text (s : String)
  | array (items : List Json)
  | object (members : List (String × Json))
  deriving Repr, Inhabited

namespace Json

/-! ## Objects -/

/-- Puts a member in its place among sorted members, over any with its key. -/
def put (key : String) (value : Json) : List (String × Json) → List (String × Json)
  | [] => [(key, value)]
  | (k, v) :: rest =>
    if key < k then (key, value) :: (k, v) :: rest
    else if key = k then (key, value) :: rest
    else (k, v) :: put key value rest

/-- The object of members in the order written. -/
def ofMembers (members : List (String × Json)) : Json :=
  .object (members.foldl (fun sorted m => put m.1 m.2 sorted) [])

/-- The value of a key; a value that is not an object has none. -/
def get? (key : String) : Json → Option Json
  | .object members => members.lookup key
  | _ => none

/-- Whether the value is an object. -/
def isObject : Json → Bool
  | .object _ => true
  | _ => false

/-- An integer as a value. -/
def ofInt (n : Int) : Json := .number (.int n)

end Json

end DaemonWatch
