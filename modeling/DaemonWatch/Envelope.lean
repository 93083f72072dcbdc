/-
  Requests to the daemon and its replies, as they travel.

  1. **Requests** (`Request`) name a method and list its parameters.

  2. **Replies** (`Envelope`) carry a value, or an error code with a text.  They are read as
     records, so each of the three fields may be missing, and each may be `null`, which counts as
     missing.

  3. **Results** (`Envelope.result`).  A reply with a code is an error even when it carries a value
     too, and a reply with neither is empty.
-/
import DaemonWatch.Failure
import DaemonWatch.Json.Printer
import DaemonWatch.Json.Record
import DaemonWatch.Text.Utf8

namespace DaemonWatch

/-! ## Requests -/

/-- A call of a method. -/
structure Request where
  method : String
  params : List Json
  deriving Repr

namespace Request

/-- The text of a request, the method in front. -/
def text (r : Request) : String :=
  (Json.object [("method", .text r.method), ("params", .array r.params)]).print

/-- The method that reports the user's answer about a deletion. -/
def reportMethod : String := "seafile_add_del_confirmation"

/-- The request that reports whether the deletion with an id is cancelled. -/
def report (id : String) (cancelled : Bool) : Request :=
  ⟨reportMethod, [.text id, .ofInt (if cancelled then 1 else 0)]⟩

end Request

/-! ## Replies -/

/-- A reply as it travels. -/
structure Envelope where
  value : Option Json := none
  errorCode : Option Int := none
  errorText : Option String := none
  deriving Repr

namespace Envelope

/-- The names of a reply's fields, in order. -/
def fieldNames : List String := ["ret", "err_code", "err_msg"]

/-- The reply that a tree spells.  The reply itself takes one level of the depth. -/
def ofTree? (t : Json.Tree) : Option Envelope := do
  let fields ← Json.Record.present? fieldNames t
  return {
    value :=
      ← Json.Record.field? fields "ret" (some none)
        (Json.Tree.nullable? (Json.Tree.value? (Json.Tree.depthLimit - 1)))
    errorCode :=
      ← Json.Record.field? fields "err_code" (some none) (Json.Tree.nullable? Json.Tree.int64?)
    errorText :=
      ← Json.Record.field? fields "err_msg" (some none) (Json.Tree.nullable? Json.Tree.string?) }

/-- The reply that bytes spell. -/
def ofBytes? (bytes : List UInt8) : Option Envelope := do
  ofTree? (← Json.Tree.ofText? (Text.Utf8.decode bytes))

/-- What a reply to a method comes to. -/
def result (method : String) (e : Envelope) : Except Failure Json :=
  match e.errorCode, e.value with
  | some code, _ => .error (.rpc method code (e.errorText.getD ""))
  | none, some value => .ok value
  | none, none => .error (.emptyReply method)

end Envelope

end DaemonWatch
