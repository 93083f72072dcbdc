/-
  A daemon that goes away within its reply.

  A call may end without a whole reply in more ways than the client takes for a loss of the
  connection.

  1. **What comes of a request.**  A whole reply has come, or one has broken off within its body, or
     there was none; only the last is a loss (`Exchange.isLost_iff`).  A reply that breaks off fails
     the call all the same: for its status, if that is no success and the body is not even waited
     for, and else for its body (`Exchange.result_cut`).

  2. **What a call comes to.**  The result of a call is what comes of its request
     (`Client.result_call`), and the crux is that the connection counts as lost just when that is a
     loss (`Client.lostAt_call`).  Over an address that cannot be used no request is sent, and the
     connection does not count as lost.

  3. **Result** (`Client.disconnected_iff`): when "no whole reply" and "disconnected" come to the
     same, and what sets them apart.  A daemon that breaks off its reply has gone away and counts as
     connected (`Client.cut_reply_counts_as_connected`).
-/
import DaemonWatch.Address.Use
import DaemonWatch.Proofs.Connectivity

namespace DaemonWatch

/-! ## What comes of a request -/

namespace Exchange

/-- That a whole reply has come. -/
def IsWhole (x : Exchange) : Prop := ∃ status body, x = .answered status body

/-- That the reply has broken off within its body.  Its status has come by then, so the daemon has
been reached. -/
def IsCut (x : Exchange) : Prop := ∃ status, x = .cut status

/-- What is neither a whole reply nor one that has broken off is a loss, and nothing else is. -/
theorem isLost_iff (x : Exchange) : x.isLost = true ↔ ¬x.IsWhole ∧ ¬x.IsCut := by
  unfold IsWhole IsCut
  rcases x with _ | _ | _ | status | ⟨status, body⟩ <;> simp [isLost]

/-- A reply that breaks off fails the call for its status, if that is no success, and else for its
body, but not for the transport. -/
theorem result_cut (method : String) (status : Nat) :
    ∃ f : Failure, (cut status).result method = .error f ∧ f.isTransport = false ∧
      f = if HttpStatus.isSuccess status then .http .bodyLost else statusFailure method status := by
  have result : (cut status).result method =
      if HttpStatus.isSuccess status then .error (.http .bodyLost)
      else .error (statusFailure method status) := rfl
  rw [result]
  by_cases success : HttpStatus.isSuccess status = true
  · rw [if_pos success, if_pos success]
    exact ⟨_, rfl, rfl, rfl⟩
  · rw [if_neg success, if_neg success]
    exact ⟨_, rfl, rfl, rfl⟩

end Exchange

/-! ## What a call comes to -/

namespace Client

/-- What comes of the next request; over an address that cannot be used none is sent. -/
def next? (c : Client) : Option Exchange :=
  if c.usable then some ((c.network.head?.map Timed.value).getD .closed) else none

/-- The result of a call is what comes of its request. -/
theorem result_call (c : Client) (r : Request) (now : Nat) :
    (c.call r now).1.result =
      match c.next? with
      | some x => x.result r.method
      | none => .error (.http .unusableAddress) := by
  show (c.send r).1.value = _
  unfold send next?
  by_cases usable : c.usable = true
  · rw [if_pos usable, if_pos usable]
    rcases c.network with _ | ⟨x, rest⟩
    · rfl
    · rfl
  · rw [if_neg usable, if_neg usable]

/-- The connection counts as lost, from the end of the call on, just when what came of its request
is a loss. -/
theorem lostAt_call (c : Client) (r : Request) (now : Nat) :
    (c.call r now).2.lostAt =
      if c.next?.any Exchange.isLost then some (now + (c.call r now).1.delay) else none := by
  have transport : (⟨(c.send r).1.value, 0, []⟩ : Reply Json).failure?.any Failure.isTransport =
      c.next?.any Exchange.isLost := by
    rw [show (c.send r).1.value = _ from c.result_call r now]
    rcases c.next? with _ | x
    · rfl
    · exact x.any_failure?_result r.method
  show ((c.send r).2.note r.method (now + (c.send r).1.delay) (c.send r).1.value).2.lostAt =
    if _ then some (now + (c.send r).1.delay) else none
  rw [note_eq, ← transport]
  rcases (c.send r).1.value with f | payload
  · by_cases lost : f.isTransport = true
    · simp [Reply.failure?, Option.filter, lost]
    · simp [Reply.failure?, Option.filter, lost]
  · rfl

/-- At the end of a call the daemon counts as disconnected just then. -/
theorem isConnected_call_eq_false_iff (c : Client) (r : Request) (now : Nat) :
    (c.call r now).2.isConnected (now + (c.call r now).1.delay) = false ↔
      ∃ x ∈ c.next?, ¬x.IsWhole ∧ ¬x.IsCut := by
  have lost : c.next?.any Exchange.isLost = true ↔ ∃ x ∈ c.next?, ¬x.IsWhole ∧ ¬x.IsCut := by
    rcases c.next? with _ | x
    · simp
    · simp [Exchange.isLost_iff]
  rw [isConnected_eq_false_iff, lostAt_call, ← lost]
  by_cases loss : c.next?.any Exchange.isLost = true
  · rw [if_pos loss]
    have soon : now + (c.call r now).1.delay < now + (c.call r now).1.delay + reconnectDelay :=
      Nat.lt_add_of_pos_right (by decide)
    exact iff_of_true ⟨_, rfl, soon⟩ loss
  · rw [if_neg loss]
    apply iff_of_false
    · rintro ⟨since, none, -⟩
      cases none
    · exact loss

/-- **When a call without a whole reply counts as a loss.**  At the end of a call the daemon counts
as disconnected exactly when a request was sent and refused, closed before a reply, or not answered
in time.  That no whole reply has come is the same only when a request was sent and its reply did
not break off: a reply that breaks off, whatever its status, and an address that cannot be used
leave no reply either, but fail in a way that is none of the transport, and from then on the daemon
counts as connected. -/
theorem disconnected_iff (c : Client) (r : Request) (now : Nat) :
    let called := c.call r now
    let disconnected := called.2.isConnected (now + called.1.delay) = false
    let answered := ∃ x ∈ c.next?, x.IsWhole
    (disconnected ↔ ∃ x ∈ c.next?, x = .refused ∨ x = .closed ∨ x = .timedOut) ∧
      ((disconnected ↔ ¬answered) ↔ ∃ x ∈ c.next?, ¬x.IsCut) ∧
      ((∀ x ∈ c.next?, x.IsCut) →
        (∃ f, called.1.result = .error f ∧ f.isTransport = false) ∧
          ∀ later, called.2.isConnected later = true) := by
  intro called disconnected answered
  have lost : disconnected ↔ ∃ x ∈ c.next?, ¬x.IsWhole ∧ ¬x.IsCut :=
    c.isConnected_call_eq_false_iff r now
  refine ⟨?_, ?_, ?_⟩
  · rw [lost]
    constructor
    · rintro ⟨x, next, whole, cut⟩
      refine ⟨x, next, ?_⟩
      rcases x with _ | _ | _ | status | ⟨status, body⟩
      · exact .inl rfl
      · exact .inr (.inl rfl)
      · exact .inr (.inr rfl)
      · exact absurd ⟨status, rfl⟩ cut
      · exact absurd ⟨status, body, rfl⟩ whole
    · rintro ⟨x, next, one⟩
      refine ⟨x, next, (Exchange.isLost_iff x).mp ?_⟩
      rcases one with rfl | rfl | rfl <;> rfl
  · rw [lost]
    rcases sent : c.next? with _ | x
    · -- Nothing is sent: there is no reply and no loss.
      simp [answered, sent]
    · have both : ¬(x.IsWhole ∧ x.IsCut) := by
        rintro ⟨⟨status, body, rfl⟩, status', cut⟩
        cases cut
      simp only [answered, sent, Option.mem_some_iff, exists_eq_left']
      tauto
  · intro cut
    have fine : called.2.lostAt = none := by
      rw [lostAt_call, if_neg]
      rw [Option.any_eq_true]
      rintro ⟨x, next, loss⟩
      exact ((Exchange.isLost_iff x).mp loss).2 (cut x next)
    constructor
    · rw [result_call]
      rcases sent : c.next? with _ | x
      · exact ⟨_, rfl, rfl⟩
      · obtain ⟨status, rfl⟩ := cut x sent
        obtain ⟨f, result, transport, -⟩ := Exchange.result_cut r.method status
        exact ⟨f, result, transport⟩
    · intro later
      unfold isConnected
      rw [fine]

/-- The daemon was lost and comes back to break off its reply; and an address lacks its scheme.
Neither time there is a whole reply, and both times the daemon counts as connected. -/
theorem cut_reply_counts_as_connected :
    let request : Request := ⟨Query.events.method, []⟩
    let back : Client := { lostAt := some 0, network := [⟨.cut 200, 5⟩] }
    let schemeless : Client := { usable := Address.isUsable "127.0.0.1:13419/rpc" }
    ((¬∃ x ∈ back.next?, x.IsWhole) ∧
        (back.call request 3000).1.failure? = some (.http .bodyLost) ∧
        (back.call request 3000).2.isConnected 3005 = true) ∧
      (¬∃ x ∈ schemeless.next?, x.IsWhole) ∧
        (schemeless.call request 0).1.failure? = some (.http .unusableAddress) ∧
        (schemeless.call request 0).2.isConnected 0 = true := by
  intro request back schemeless
  have cut : back.next? = some (.cut 200) := rfl
  have unsent : schemeless.next? = none := by decide
  refine ⟨⟨?_, by decide, by decide⟩, ?_, by decide, by decide⟩
  · rw [cut]
    rintro ⟨_, ⟨⟩, status, body, whole⟩
    cases whole
  · rw [unsent]
    rintro ⟨_, ⟨⟩, -⟩

end Client

end DaemonWatch
