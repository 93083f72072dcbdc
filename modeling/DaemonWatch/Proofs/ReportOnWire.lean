/-
  The report of the user's answer about a deletion, as it travels.

  1. **Requests.**  A request is written as an object of two members, and one whose parameters can
     be read is read back from its bytes (`Request.ofText?_text`).  That is where escapes,
     characters beyond 16 bits and the encoding are dealt with, by what is known of any JSON text.
     So requests with different methods or parameters have different bytes
     (`Request.eq_of_encode_text`).

  2. **The crux (`Client.received_call`)**: a call sends its request once and nothing else, and how
     it ends makes no difference to what was received.

  3. **Bridge.**  Upon a notification about a deletion the station does nothing but ask and report
     (`Arrival.run_of_asks`), so the client makes one call.  Its request reads as the method and the
     two parameters: the id that the notification has given, unchanged, and 1 or 0 for a deletion
     that is cancelled or not (`report_on_wire`).
-/
import DaemonWatch.Client
import DaemonWatch.Proofs.DeletionReplies
import DaemonWatch.Proofs.JsonText
import DaemonWatch.Proofs.Utf8

namespace DaemonWatch

open Text

/-! ## Requests -/

namespace Request

/-- The object that a request is written as. -/
def object (r : Request) : Json := .object [("method", .text r.method), ("params", .array r.params)]

/-- The parameters can be read at the depth that the request leaves for them. -/
theorem isReadable_object {r : Request}
    (readable : Json.AreReadable (Json.Tree.depthLimit - 2) r.params) :
    r.object.IsReadable Json.Tree.depthLimit := by
  have ordered : Json.ofMembers [("method", .text r.method), ("params", .array r.params)] =
      r.object := by
    have less : ¬"params" < "method" ∧ "params" ≠ "method" := by decide
    simp [Json.ofMembers, Json.put, less, object]
  exact ⟨by decide, ordered, trivial, ⟨by decide, readable⟩, trivial⟩

/-- **A request is read back from its bytes.** -/
theorem ofText?_text {r : Request}
    (readable : Json.AreReadable (Json.Tree.depthLimit - 2) r.params) :
    Json.ofText? Json.Tree.depthLimit (Utf8.decode (Utf8.encode r.text)) = some r.object := by
  rw [Utf8.decode_encode]
  exact Json.ofText?_print (isReadable_object readable)

/-- Requests with the same bytes are the same. -/
theorem eq_of_encode_text {r r' : Request}
    (readable : Json.AreReadable (Json.Tree.depthLimit - 2) r.params)
    (readable' : Json.AreReadable (Json.Tree.depthLimit - 2) r'.params)
    (same : Utf8.encode r.text = Utf8.encode r'.text) : r = r' := by
  have read := ofText?_text readable
  rw [same, ofText?_text readable'] at read
  cases r
  cases r'
  simp only [object, Option.some.injEq, Json.object.injEq, List.cons.injEq, Prod.mk.injEq,
    Json.text.injEq, Json.array.injEq, true_and, and_true] at read
  rw [read.1, read.2]

/-- The parameters of a report can be read. -/
theorem readable_report (id : String) (cancelled : Bool) (depth : Nat) :
    Json.AreReadable depth (report id cancelled).params := by
  cases cancelled <;> exact ⟨trivial, ⟨by decide, by decide⟩, trivial⟩

/-- Reports of different ids or answers are different. -/
theorem report_inj {id id' : String} {cancelled cancelled' : Bool}
    (same : report id cancelled = report id' cancelled') : id = id' ∧ cancelled = cancelled' := by
  simp only [report, Request.mk.injEq, List.cons.injEq, Json.text.injEq, Json.ofInt,
    Json.number.injEq, Json.Number.int.injEq, true_and, and_true] at same
  refine ⟨same.1, ?_⟩
  cases cancelled <;> cases cancelled' <;> simp_all

end Request

/-! ## Calls -/

namespace Client

/-- Whether the next request reaches anyone. -/
def isReached (c : Client) : Bool :=
  c.usable && ((c.network.head?.map Timed.value).getD .closed).isReceived

/-- A request is received once, if it reaches anyone. -/
theorem received_send (c : Client) (r : Request) :
    (c.send r).2.received = c.received ++ if c.isReached then [r.text] else [] := by
  obtain ⟨usable, lostAt, network, received⟩ := c
  cases usable with
  | false => exact (List.append_nil _).symm
  | true =>
    have sent : ∀ exchange : Exchange,
        (if exchange.isReceived = true then received ++ [r.text] else received) =
          received ++ if exchange.isReceived = true then [r.text] else [] := by
      intro exchange
      split
      · rfl
      · exact (List.append_nil _).symm
    cases network with
    | nil => exact sent .closed
    | cons e rest => exact sent e.value

/-- How a call ends makes no difference to what was received. -/
theorem received_note {α : Type} (c : Client) (method : String) (now : Nat)
    (result : Except Failure α) : (c.note method now result).2.received = c.received := by
  unfold note
  split
  · split <;> rfl
  · rfl

/-- A call sends its request once, and nothing else. -/
theorem received_call (c : Client) (r : Request) (now : Nat) :
    (c.call r now).2.received = c.received ++ if c.isReached then [r.text] else [] := by
  rw [← received_send]
  exact received_note _ _ _ _

end Client

/-! ## Reports -/

/-- **The report of an answer on the wire.**  Upon a notification about a deletion with an id the
client makes one call, after the user has answered, and its request is received once if it reaches
anyone.  The bytes of the request read as an object of two members: the method, and the id with 0 if
the user has confirmed the deletion and 1 if not.  Another id or another answer has other bytes. -/
theorem report_on_wire (members : List (String × Json)) (id : String) (now : Nat)
    (s : Station Client)
    (deletion : Payload.text (.object members) "type" ∈
      ["del_confirmation", "del_repo_confirmation"])
    (identified : (Json.object members).get? "confirmation_id" = some (.text id)) :
    let confirmed := s.takeAnswer.1.value
    let request := Request.report id (!confirmed)
    let run := Event.deliver .notification (.object members) now s
    run.station.channel = (s.channel.call request (now + s.takeAnswer.1.delay)).2 ∧
      run.station.channel.received =
        s.channel.received ++ (if s.channel.isReached then [request.text] else []) ∧
      Json.ofText? Json.Tree.depthLimit (Utf8.decode (Utf8.encode request.text)) =
        some (.object
          [("method", .text "seafile_add_del_confirmation"),
           ("params", .array [.text id, .ofInt (if confirmed then 0 else 1)])]) ∧
      ∀ (id' : String) (confirmed' : Bool),
        Utf8.encode (Request.report id' (!confirmed')).text = Utf8.encode request.text →
        id' = id ∧ confirmed' = confirmed := by
  intro confirmed request run
  let a : Arrival Client := ⟨.notification, .object members, now, s⟩
  have asks : a.asks = true := by
    simp only [List.mem_cons, List.not_mem_nil, or_false] at deletion
    exact Arrival.asks_iff.mpr ⟨rfl, deletion⟩
  have named : a.id = id := Payload.text_of_text identified
  have called : run.station.channel =
      (s.channel.call request (now + s.takeAnswer.1.delay)).2 := by
    have ran := a.run_of_asks asks
    rw [FollowUp.run_askUser, named] at ran
    exact congrArg (fun r => r.station.channel) ran
  refine ⟨called, ?_, ?_, ?_⟩
  · rw [called, Client.received_call]
  · rw [Request.ofText?_text (Request.readable_report id _ _)]
    cases confirmed <;> rfl
  · intro id' confirmed' same
    have equal := Request.eq_of_encode_text (Request.readable_report id' _ _)
      (Request.readable_report id _ _) same
    obtain ⟨ids, cancelled⟩ := Request.report_inj equal
    exact ⟨ids, Bool.not_inj cancelled⟩

/-- An id with a quotation mark, a backslash, control characters and a character beyond 16 bits is
reported under just that id. -/
theorem report_on_wire_escaped :
    let id := "\"\\\n\x00\x01𝄞"
    let members := [("confirmation_id", Json.text id), ("type", Json.text "del_confirmation")]
    let s : Station Client :=
      { channel := { network := [⟨.answered 200 [], 40⟩] }, answers := [⟨true, 5⟩] }
    let run := Event.deliver .notification (.object members) 100 s
    Payload.text (.object members) "type" ∈ ["del_confirmation", "del_repo_confirmation"] ∧
      (Json.object members).get? "confirmation_id" = some (.text id) ∧
      run.station.channel.received = [(Request.report id false).text] ∧
      Json.ofText? Json.Tree.depthLimit (Utf8.decode (Utf8.encode (Request.report id false).text)) =
        some (.object
          [("method", .text "seafile_add_del_confirmation"),
           ("params", .array [.text id, .ofInt 0])]) := by
  intro id members s run
  have deletion : Payload.text (.object members) "type" ∈
      ["del_confirmation", "del_repo_confirmation"] := by decide
  have identified : (Json.object members).get? "confirmation_id" = some (.text id) := rfl
  obtain ⟨-, received, read, -⟩ := report_on_wire members id 100 s deletion identified
  exact ⟨deletion, identified, received, read⟩

/-- The text of that report. -/
example :
    (Request.report "\"\\\n\x00\x01𝄞" false).text =
      "\x7b\"method\":\"seafile_add_del_confirmation\",\"params\":[\"\\\"\\\\\\n\\u0000\\u0001𝄞\",0]\x7d" := by
  decide

end DaemonWatch
