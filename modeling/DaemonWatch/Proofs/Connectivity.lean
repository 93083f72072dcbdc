/-
  When the client takes the daemon for connected, and when it says that the connection is lost.

  Only the call that ended last decides whether the daemon counts as connected; and of calls that
  fail in transport one after the other, only the first is logged as a loss.

  1. **The crux (`Client.Notes`)**: what a single call leaves.  The connection counts as lost since
     the end of the call if it failed in transport, and as not lost otherwise; the loss is logged if
     the connection was not lost before; and what came of the request was the first of what was to
     come.  Queries and reports both leave just that (`Client.notes_query`, `Client.notes_confirm`):
     that an empty reply makes a report succeed is no matter of the transport
     (`Client.failure?_reportResult`).

  2. **Calls in a row** (`Recorded.notes_makeAll`): by induction each call notes its end, and what
     it logs depends on whether the one before was a loss (`Ended.logged`).

  3. **Runs of losses.**  `Ended.logged` goes from call to call, while the specification speaks of
     maximal runs, which `List.splitBy` cuts out.  Within a run nothing more is logged
     (`Ended.logged_run`), and between two runs the kind of end changes (`Ended.logged_flatten`); so
     the first call of each run of losses tells of it, and no other (`Ended.logged_eq`).

  4. **Result** (`connected_or_lost`): over a new client, with whatever comes of the calls.  Which
     exchanges are losses is said without the client (`Exchange.isLost`).
-/
import DaemonWatch.Client
import DaemonWatch.Proofs.CallRecord
import Mathlib.Data.List.SplitBy

namespace DaemonWatch

/-! ## One call -/

namespace Ended

/-- What is logged when the connection is lost with a call; nothing when it is not. -/
def lossNotices (e : Ended) : List Notice := e.loss?.toList.map (.connectionLost e.call.method)

/-- A call that does not fail in transport loses nothing. -/
theorem lossNotices_of_not_isLoss {e : Ended} (fine : e.isLoss = false) : e.lossNotices = [] := by
  have none : e.loss? = none := Option.not_isSome_iff_eq_none.mp (by simpa [isLoss] using fine)
  rw [lossNotices, none]
  rfl

end Ended

/-! ### What comes of a request -/

namespace Exchange

/-- Whether a request was refused, closed before a reply, or not answered in time. -/
def isLost : Exchange → Bool
  | refused | closed | timedOut => true
  | cut _ | answered .. => false

/-- That is how a call fails in transport: nothing else that may come of it counts as such. -/
theorem any_failure?_result (x : Exchange) (method : String) :
    (⟨x.result method, 0, []⟩ : Reply Json).failure?.any Failure.isTransport = x.isLost := by
  cases x with
  | refused | closed | timedOut => rfl
  | cut status =>
    simp only [result]
    split <;> rfl
  | answered status body =>
    simp only [result]
    split
    · split
      next e _ =>
        -- A reply that can be read fails, if it does, for what it says.
        simp only [Envelope.result]
        split <;> rfl
      next => rfl
    · rfl

/-- What comes of `n` requests, when some exchanges are in store and after them all connections are
closed. -/
def inStore : List (Timed Exchange) → Nat → List (Timed Exchange)
  | _, 0 => []
  | [], n + 1 => ⟨closed, 0⟩ :: inStore [] n
  | x :: rest, n + 1 => x :: inStore rest n

end Exchange

/-- What comes of `n` calls over a client, one after the other: whether the transport fails, and how
long it takes.  Over an address that cannot be used no request is sent. -/
def Client.outcomes (c : Client) (n : Nat) : List (Bool × Nat) :=
  if c.usable then (Exchange.inStore c.network n).map fun x => (x.value.isLost, x.delay)
  else List.replicate n (false, 0)

/-- The outcome of a request is the first of those to come, and leaves the others. -/
theorem Client.outcomes_succ (c : Client) (r : Request) (n : Nat) :
    let sent := c.send r
    c.outcomes (n + 1) =
      ((⟨sent.1.value, 0, []⟩ : Reply Json).failure?.any Failure.isTransport, sent.1.delay) ::
        sent.2.outcomes n := by
  cases use : c.usable with
  | false =>
    have sent : c.send r = (⟨.error (.http .unusableAddress), 0⟩, c) := by
      simp only [send, use]
      rfl
    simp only [sent, outcomes, use]
    rfl
  | true =>
    cases store : c.network with
    | nil => simp [outcomes, send, use, store, Exchange.inStore, Exchange.any_failure?_result]
    | cons x rest =>
      simp [outcomes, send, use, store, Exchange.inStore, Exchange.any_failure?_result]

/-! ### What a call leaves -/

namespace Client

/-- What a call leaves: the connection counts as lost since the end of the call if it failed in
transport, and as not lost otherwise; the loss is logged if the connection was not lost; and the
outcome was the first of those to come. -/
structure Notes (c c' : Client) (e : Ended) : Prop where
  lostAt : c'.lostAt = if e.isLoss then some e.stop else none
  notices : e.notices = if c.lostAt.isSome then [] else e.lossNotices
  outcome : ∀ n, ∃ delay, e.stop = e.start + delay ∧
    c.outcomes (n + 1) = (e.isLoss, delay) :: c'.outcomes n

/-- To send a request says nothing about the connection yet. -/
theorem lostAt_send (c : Client) (r : Request) : (c.send r).2.lostAt = c.lostAt := by
  simp only [send]
  split <;> rfl

/-- What is noted depends on the failure of the transport alone. -/
theorem note_eq {α : Type} (c : Client) (method : String) (now : Nat) (result : Except Failure α) :
    c.note method now result =
      match (⟨result, 0, []⟩ : Reply α).failure?.filter Failure.isTransport with
      | some f =>
        (if c.lostAt.isNone then [.connectionLost method f] else [], { c with lostAt := some now })
      | none => ([], { c with lostAt := none }) := by
  cases result with
  | ok value => rfl
  | error f =>
    cases transport : f.isTransport <;>
      simp [note, Reply.failure?, Option.filter, transport]

/-- To note how a call ended changes nothing about what is to come. -/
theorem outcomes_note {α : Type} (c : Client) (method : String) (now : Nat)
    (result : Except Failure α) (n : Nat) :
    (c.note method now result).2.outcomes n = c.outcomes n := by
  rw [note_eq]
  split <;> rfl

/-- What is noted at the end of a call: whether and since when the connection is lost, what is
logged of it, and how the calls behind it will end.  The three hypotheses say of the call what the
client knows at its end. -/
theorem notes_note {c : Client} {r : Request} {e : Ended}
    (cause : e.loss? = (⟨(c.send r).1.value, 0, []⟩ : Reply Json).failure?.filter
      Failure.isTransport)
    (stop : e.stop = e.start + (c.send r).1.delay)
    (logged : e.notices = ((c.send r).2.note e.call.method e.stop (c.send r).1.value).1) :
    Notes c ((c.send r).2.note e.call.method e.stop (c.send r).1.value).2 e := by
  have outcome : ∀ n, ∃ delay, e.stop = e.start + delay ∧ c.outcomes (n + 1) =
      (e.isLoss, delay) ::
        ((c.send r).2.note e.call.method e.stop (c.send r).1.value).2.outcomes n := by
    intro n
    have loss : e.isLoss = _ := congrArg Option.isSome cause
    rw [Option.isSome_filter] at loss
    exact ⟨_, stop, by rw [outcomes_note, loss, c.outcomes_succ r n]⟩
  have before := c.lostAt_send r
  rw [note_eq, ← cause] at logged outcome ⊢
  cases loss : e.loss? with
  | none =>
    have fine : e.isLoss = false := by rw [Ended.isLoss, loss]; rfl
    rw [loss] at logged outcome
    refine ⟨?_, ?_, outcome⟩
    · rw [fine]
      rfl
    · rw [logged, e.lossNotices_of_not_isLoss fine, ite_self]
  | some f =>
    have lost : e.isLoss = true := by rw [Ended.isLoss, loss]; rfl
    rw [loss] at logged outcome
    refine ⟨?_, ?_, outcome⟩
    · rw [lost]
      rfl
    · simp only [logged, before, Ended.lossNotices, loss]
      cases c.lostAt <;> rfl

/-- A client notes the end of every query. -/
theorem notes_query (q : Query) (now : Nat) (c : Client) :
    Notes c (Channel.query q now c).2 (.ofReply (.query q) now (Channel.query q now c).1) :=
  notes_note (r := ⟨q.method, []⟩) (e := .ofReply (.query q) now (Channel.query q now c).1)
    rfl rfl rfl

/-- That an empty reply makes a report succeed is no matter of the transport. -/
theorem failure?_reportResult (result : Except Failure Json) (delay : Nat)
    (notices : List Notice) :
    (⟨reportResult result, delay, notices⟩ : Reply Unit).failure?.filter Failure.isTransport =
      (⟨result, 0, []⟩ : Reply Json).failure?.filter Failure.isTransport := by
  cases result with
  | ok value => rfl
  | error f => cases f <;> rfl

/-- A client notes the end of every report. -/
theorem notes_confirm (id : String) (cancelled : Bool) (now : Nat) (c : Client) :
    Notes c (Channel.confirm id cancelled now c).2
      (.ofReply (.report id cancelled) now (Channel.confirm id cancelled now c).1) :=
  notes_note (r := Request.report id cancelled)
    (e := .ofReply (.report id cancelled) now (Channel.confirm id cancelled now c).1)
    (failure?_reportResult _ _ _) rfl rfl

end Client

/-! ## Calls in a row -/

/-- The channel after a call at some time. -/
def Outgoing.make {σ : Type} [Channel σ] (now : Nat) (r : Recorded σ) : Outgoing → Recorded σ
  | query q => (Channel.query q now r).2
  | report id cancelled => (Channel.confirm id cancelled now r).2

/-- The channel after some calls, which have begun at the given times and end in the given order. -/
def Recorded.makeAll {σ : Type} [Channel σ] (r : Recorded σ) (calls : List (Nat × Outgoing)) :
    Recorded σ :=
  calls.foldl (fun r call => call.2.make call.1 r) r

/-- A call is recorded and noted. -/
theorem Outgoing.notes_make (now : Nat) (r : Recorded Client) (call : Outgoing) :
    ∃ e, (call.make now r).calls = r.calls ++ [e] ∧ e.sent = (now, call) ∧
      Client.Notes r.channel (call.make now r).channel e := by
  cases call with
  | query q => exact ⟨_, rfl, rfl, Client.notes_query q now r.channel⟩
  | report id cancelled => exact ⟨_, rfl, rfl, Client.notes_confirm id cancelled now r.channel⟩

/-- What some calls log each, by whether the connection was lost before. -/
def Ended.logged : Bool → List Ended → List (List Notice)
  | _, [] => []
  | lost, e :: es => (if lost then [] else e.lossNotices) :: logged e.isLoss es

/-- Calls in a row are recorded and noted one after the other.  It is an induction over the calls;
whether the connection is lost before the others is known from the first. -/
theorem Recorded.notes_makeAll (r : Recorded Client) (calls : List (Nat × Outgoing)) :
    ∃ es, (r.makeAll calls).calls = r.calls ++ es ∧ es.map Ended.sent = calls ∧
      es.map (fun e => (e.isLoss, e.stop)) =
        List.zipWith (fun call x => (x.1, call.1 + x.2)) calls (r.channel.outcomes calls.length) ∧
      es.map Ended.notices = Ended.logged r.channel.lostAt.isSome es ∧
      (r.makeAll calls).channel.lostAt =
        match es.getLast? with
        | none => r.channel.lostAt
        | some e => if e.isLoss then some e.stop else none := by
  induction calls generalizing r with
  | nil => exact ⟨[], (List.append_nil _).symm, rfl, rfl, rfl, rfl⟩
  | cons call calls ih =>
    obtain ⟨e, here, sent, notes⟩ := call.2.notes_make call.1 r
    obtain ⟨es, there, rest, outcomes, logged, lostAt⟩ := ih (call.2.make call.1 r)
    -- Whether the connection is lost before the other calls is known from the first.
    refine ⟨e :: es, ?_, ?_, ?_, ?_, ?_⟩
    · rw [makeAll, List.foldl_cons, ← makeAll, there, here, List.append_assoc]
      rfl
    · rw [List.map_cons, sent, rest]
    · obtain ⟨delay, stop, next⟩ := notes.outcome calls.length
      have start : e.start = call.1 := congrArg Prod.fst sent
      rw [List.length_cons, next, List.zipWith_cons_cons, List.map_cons, outcomes, stop, start]
    · have known : (call.2.make call.1 r).channel.lostAt.isSome = e.isLoss := by
        rw [notes.lostAt]
        cases e.isLoss <;> rfl
      rw [List.map_cons, logged, notes.notices, known]
      rfl
    · show ((call.2.make call.1 r).makeAll calls).channel.lostAt = _
      rw [lostAt, List.getLast?_cons]
      cases es.getLast? with
      | none => exact notes.lostAt
      | some last => rfl

/-! ## Runs of losses -/

namespace Ended

/-- Whether of two calls both have failed in transport, or neither. -/
def isLike (a b : Ended) : Bool := a.isLoss == b.isLoss

/-- What the calls of a run of losses log each, or of a run of other ends: only the first tells of
the loss, if it is one. -/
def loggedOnce : List Ended → List (List Notice)
  | [] => []
  | e :: es => e.lossNotices :: es.map fun _ => []

/-- Within a run nothing more is logged. -/
theorem logged_run (e : Ended) (es more : List Ended)
    (run : (e :: es).IsChain fun a b => a.isLike b) :
    logged e.isLoss (es ++ more) =
      es.map (fun _ => []) ++ logged ((e :: es).getLast (List.cons_ne_nil _ _)).isLoss more := by
  induction es generalizing e with
  | nil => rfl
  | cons b es ih =>
    obtain ⟨like, rest⟩ := List.isChain_cons_cons.mp run
    have same : e.isLoss = b.isLoss := by simpa [isLike] using like
    have silent : (if e.isLoss then [] else b.lossNotices) = [] := by
      cases loss : b.isLoss with
      | true => rw [same, loss, if_pos rfl]
      | false => rw [lossNotices_of_not_isLoss loss, ite_self]
    rw [List.cons_append, logged, silent, ih b rest, List.getLast_cons_cons]
    rfl

/-- Of runs one after the other each tells of a loss once.  A run ends where the calls begin to end
otherwise, so a run of losses never goes on in the next one, and its first loss is the first after a
call that was none. -/
theorem logged_flatten {runs : List (List Ended)} (nonempty : [] ∉ runs)
    (areRuns : ∀ run ∈ runs, run.IsChain fun a b => a.isLike b)
    (apart : runs.IsChain fun a b => ∃ ha hb, (a.getLast ha).isLike (b.head hb) = false)
    {lost : Bool}
    (first : ∀ run ∈ runs.head?, ∀ e ∈ run.head?, lost = true → e.isLoss = false) :
    logged lost runs.flatten = runs.flatMap loggedOnce := by
  induction runs generalizing lost with
  | nil => rfl
  | cons run runs ih =>
    rw [List.mem_cons, not_or] at nonempty
    rw [List.forall_mem_cons] at areRuns
    rw [List.isChain_cons] at apart
    cases run with
    | nil => exact absurd rfl nonempty.1
    | cons e es =>
      have here : (if lost then [] else e.lossNotices) = e.lossNotices := by
        cases lost with
        | false => rfl
        | true => exact (lossNotices_of_not_isLoss (first _ rfl e rfl rfl)).symm
      -- The next run does not go on with the losses of this one.
      have next : ∀ run ∈ runs.head?, ∀ b ∈ run.head?,
          ((e :: es).getLast (List.cons_ne_nil _ _)).isLoss = true → b.isLoss = false := by
        intro run mem b head loss
        obtain ⟨_, some, unlike⟩ := apart.1 run mem
        rw [List.head_of_mem_head? head, isLike, loss] at unlike
        simpa using unlike
      have rest := ih nonempty.2 areRuns.2 apart.2 next
      rw [List.flatten_cons, List.cons_append, logged, here, logged_run e es _ areRuns.1, rest,
        List.flatMap_cons]
      rfl

/-- Of calls in a row, the first of every run of losses tells of it, and no other. -/
theorem logged_eq (es : List Ended) :
    logged false es = (es.splitBy isLike).flatMap loggedOnce := by
  have runs : logged false (es.splitBy isLike).flatten = (es.splitBy isLike).flatMap loggedOnce :=
    logged_flatten (List.nil_notMem_splitBy isLike es) (fun _ => List.isChain_of_mem_splitBy)
      (List.isChain_getLast_head_splitBy isLike es) fun _ _ _ _ no => absurd no (by decide)
  rw [List.flatten_splitBy] at runs
  exact runs

end Ended

/-! ## Connected or lost -/

/-- A client counts the daemon as disconnected for two seconds from the moment since which the
connection is lost. -/
theorem Client.isConnected_eq_false_iff (c : Client) (now : Nat) :
    c.isConnected now = false ↔ ∃ since, c.lostAt = some since ∧ now < since + reconnectDelay := by
  unfold isConnected
  cases lost : c.lostAt with
  | none => simp
  | some since =>
    rw [decide_eq_false_iff_not]
    simp only [Option.some.injEq, exists_eq_left', reconnectDelay]
    omega

/-- At the end of a call that fails in transport the daemon counts as disconnected. -/
theorem Client.Notes.isConnected_stop {c c' : Client} {e : Ended} (notes : Notes c c' e)
    (loss : e.isLoss = true) : c'.isConnected e.stop = false := by
  rw [isConnected_eq_false_iff, notes.lostAt, if_pos loss]
  exact ⟨e.stop, rfl, Nat.lt_add_of_pos_right (by decide)⟩

/-- **Connected or lost.**  After any calls over a new client, whatever comes of them, the daemon
counts as disconnected at a time exactly if the call that ended last failed in transport, less
than two seconds before.  And of the maximal runs of calls that failed in transport one after the
other, each has logged once that the connection is lost, with its first call; nothing else is
logged.  A call fails in transport when its request is refused, closed before a reply or not
answered in time, and for no other reason. -/
theorem connected_or_lost (usable : Bool) (network : List (Timed Exchange))
    (calls : List (Nat × Outgoing)) :
    let c : Client := { usable := usable, network := network }
    let r := Recorded.makeAll { channel := c } calls
    r.calls.map Ended.sent = calls ∧
      r.calls.map (fun e => (e.isLoss, e.stop)) =
        List.zipWith (fun call x => (x.1, call.1 + x.2)) calls (c.outcomes calls.length) ∧
      (∀ now, r.channel.isConnected now = false ↔
        ∃ e, r.calls.getLast? = some e ∧ e.isLoss ∧ now < e.stop + Client.reconnectDelay) ∧
      r.calls.map Ended.notices =
        (r.calls.splitBy fun a b => a.isLoss == b.isLoss).flatMap Ended.loggedOnce := by
  intro c r
  obtain ⟨es, made, sent, outcomes, logged, lostAt⟩ :=
    Recorded.notes_makeAll { channel := c } calls
  have all : r.calls = es := made
  refine ⟨?_, ?_, ?_, ?_⟩
  · rw [all, sent]
  · rw [all, outcomes]
  · intro now
    rw [Client.isConnected_eq_false_iff, all, lostAt]
    cases es.getLast? with
    | none => simp [c]
    | some e => cases loss : e.isLoss <;> simp [loss]
  · rw [all, logged]
    exact Ended.logged_eq es

/-- Two retries of a lost connection say nothing more; after an answer a loss is told of again. -/
example :
    let r := Recorded.makeAll
      { channel :=
          { network := [⟨.refused, 5⟩, ⟨.timedOut, 300⟩, ⟨.refused, 0⟩, ⟨.answered 500 [], 1⟩,
              ⟨.closed, 7⟩] : Client } }
      [(0, .query .events), (5, .report "c" false), (2305, .query .status), (4305, .query .errors),
        (4306, .query .events)]
    r.calls.map (·.notices.length) = [1, 0, 0, 0, 1] ∧
      r.channel.isConnected 6312 = false ∧ r.channel.isConnected 6313 = true := by
  decide

end DaemonWatch
