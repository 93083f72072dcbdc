/-
  The record of a channel's calls.

  A channel can keep a record of the calls that were made over it: what was sent and when, when the
  call ended, how, and what it logged.  What is said about calls in a row can then be carried over
  to the effects of a session, which do not tell how calls have ended.

  1. **Recording** (`Recorded`).  To keep a record changes nothing else, because a recorded channel
     is seen as the channel (`Recorded.isView`, `BegunTick.map_recordedRun`); and what was recorded
     before makes no difference (`Recorded.isView_since`).

  2. **The crux (`Recorded.Sends`)**: some work has sent what was recorded meanwhile.  It is kept
     along the steps of the work (`runFor_sends`).  Most steps neither send nor record anything; the
     two that do are a query and the report of an answer (`Turn.sends_step`, `Errand.sends_step`).

  3. **Result.**  The calls recorded in a tick are the queries and reports among its effects, with
     their times (`BegunTick.sent_calls`), and the record of a session is that of its ticks one
     after the other (`Tick.calls_session`).
-/
import DaemonWatch.Envelope
import DaemonWatch.Proofs.Session
import DaemonWatch.Proofs.TickShape

namespace DaemonWatch

variable {σ τ : Type}

/-! ## Calls -/

/-- What is sent to the daemon: a query, or the report of the user's answer about a deletion. -/
inductive Outgoing
  | query (q : Query)
  | report (id : String) (cancelled : Bool)
  deriving Repr, DecidableEq

namespace Outgoing

/-- The daemon's method. -/
def method : Outgoing → String
  | query q => q.method
  | report .. => Request.reportMethod

/-- The effect that it is to send it. -/
def effect : Outgoing → Effect
  | query q => .query q
  | report id cancelled => .confirmation id cancelled

end Outgoing

/-- What an effect sends to the daemon, if it does. -/
def Effect.outgoing? : Effect → Option Outgoing
  | query q => some (.query q)
  | confirmation id cancelled => some (.report id cancelled)
  | _ => none

/-- A call that has ended: what was sent, when it began and ended, why it failed if it did, and what
it logged. -/
structure Ended where
  call : Outgoing
  start : Nat
  stop : Nat
  failure? : Option Failure
  notices : List Notice
  deriving Repr, DecidableEq

namespace Ended

/-- The call that ends with a reply. -/
def ofReply {α : Type} (call : Outgoing) (start : Nat) (reply : Reply α) : Ended :=
  ⟨call, start, start + reply.delay, reply.failure?, reply.notices⟩

/-- What was sent and when. -/
def sent (e : Ended) : Nat × Outgoing := (e.start, e.call)

/-- The failure of the transport, if that is how the call ended. -/
def loss? (e : Ended) : Option Failure := e.failure?.filter Failure.isTransport

/-- Whether the transport failed. -/
def isLoss (e : Ended) : Bool := e.loss?.isSome

end Ended

/-! ## Recording -/

/-- A channel and the record of its calls, in the order in which they have ended.  Being asked
whether the daemon is connected is no call: nothing is sent. -/
structure Recorded (σ : Type) where
  channel : σ
  calls : List Ended := []

instance [Channel σ] : Channel (Recorded σ) where
  connected now r :=
    let (answer, channel) := Channel.connected now r.channel
    (answer, { r with channel := channel })
  query q now r :=
    let (reply, channel) := Channel.query q now r.channel
    (reply, ⟨channel, r.calls ++ [.ofReply (.query q) now reply]⟩)
  confirm id cancelled now r :=
    let (reply, channel) := Channel.confirm id cancelled now r.channel
    (reply, ⟨channel, r.calls ++ [.ofReply (.report id cancelled) now reply]⟩)

namespace Recorded

/-- The channel with its record behind one that it had before. -/
def since (calls : List Ended) (r : Recorded σ) : Recorded σ := ⟨r.channel, calls ++ r.calls⟩

variable [Channel σ]

/-- A recorded channel answers as the channel does. -/
theorem isView : Channel.IsView (channel (σ := σ)) where
  connected _ _ := rfl
  query _ _ _ := rfl
  confirm _ _ _ _ := rfl

/-- What was recorded before makes no difference. -/
theorem isView_since (calls : List Ended) : Channel.IsView (since (σ := σ) calls) where
  connected _ _ := rfl
  query _ _ _ := Prod.ext rfl (congrArg (Recorded.mk _) (List.append_assoc ..))
  confirm _ _ _ _ := Prod.ext rfl (congrArg (Recorded.mk _) (List.append_assoc ..))

end Recorded

namespace Station

/-- The station with its channel recorded from now on. -/
def recorded (s : Station σ) : Station (Recorded σ) := s.seen fun c => { channel := c }

/-- The station without the record. -/
def unrecorded (r : Station (Recorded σ)) : Station σ := r.seen Recorded.channel

end Station

/-! ## What is sent -/

/-- What is sent to the daemon, and when. -/
def History.sent (h : History) : List (Nat × Outgoing) :=
  h.timedEffects.filterMap fun e => e.2.outgoing?.map (e.1, ·)

@[simp] theorem History.sent_append (h h' : History) :
    History.sent (h ++ h') = h.sent ++ h'.sent := by
  rw [sent, timedEffects_append, List.filterMap_append]
  rfl

/-- Outputs whose effects send nothing. -/
theorem History.sent_stamped_of_quiet (now : Nat) {outputs : List Output}
    (quiet : (Output.effects outputs).filterMap Effect.outgoing? = []) :
    History.sent (.stamped now outputs) = [] := by
  rw [sent, timedEffects_stamped, List.filterMap_map]
  rw [List.filterMap_eq_nil_iff] at quiet ⊢
  intro e mem
  simp [quiet e mem]

/-- That some work has sent what was recorded meanwhile: the calls in the record are the effects
that send something, one by one and at the same times. -/
def Recorded.Sends (before after : Recorded σ) (h : History) : Prop :=
  after.calls.map Ended.sent = before.calls.map Ended.sent ++ h.sent

/-- What sends nothing and makes no call. -/
theorem Recorded.Sends.of_quiet {r r' : Recorded σ} (now : Nat) {outputs : List Output}
    (quiet : (Output.effects outputs).filterMap Effect.outgoing? = []) (same : r' = r) :
    Recorded.Sends r r' (.stamped now outputs) := by
  rw [Sends, History.sent_stamped_of_quiet now quiet, same, List.append_nil]

theorem Recorded.Sends.append {r r' r'' : Recorded σ} {h h' : History} (first : Sends r r' h)
    (more : Sends r' r'' h') : Sends r r'' (h ++ h') := by
  rw [Sends, more, first, History.sent_append, List.append_assoc]

/-- When every step sends what is recorded, so does the work. -/
theorem runFor_sends {step : Nat → Station (Recorded σ) → τ → Step (Recorded σ) τ}
    (sends : ∀ now s t, Recorded.Sends s.channel (step now s t).station.channel
      (.stamped now (step now s t).outputs)) (n now : Nat) (s : Station (Recorded σ)) (t : τ) :
    Recorded.Sends s.channel (runFor step n now s t).station.channel
      (runFor step n now s t).history := by
  induction n generalizing now s t with
  | zero => exact (List.append_nil _).symm
  | succ n ih =>
    have first := sends now s t
    simp only [runFor]
    cases (step now s t).next with
    | none => exact first
    | some next => exact first.append (ih _ _ _)

/-! ### Steps that send nothing -/

/-- A drive event sends nothing. -/
theorem DriveEvent.outgoing?_shown (e : DriveEvent) :
    e.shown.filterMap Effect.outgoing? = [] := by
  have sequel := e.sequel_shown
  generalize e.shown = shown at sequel
  cases sequel <;> rfl

/-- To begin to handle an event sends nothing. -/
theorem Event.outgoing?_begin (s : Station σ) (e : Event) :
    (Output.effects (e.begin s).outputs).filterMap Effect.outgoing? = [] := by
  rw [begin_eq]
  cases e with
  | drive e =>
    simp only [react, Output.effects_effects]
    exact e.outgoing?_shown
  | status | errors => rfl
  | notification n =>
    rcases n.react_cases s.preferences with ⟨outputs, reacts, quiet | ⟨m, shown⟩⟩ | ⟨f, reacts⟩
    · simp only [react, reacts, quiet]
      rfl
    · simp only [react, reacts, shown]
      rfl
    · simp only [react, reacts, List.nil_append]
      cases f with
      | askUser id text question => rfl
      | runLink request =>
        simp only [FollowUp.begin]
        split <;> rfl

/-- To take a payload sends nothing. -/
theorem Turn.outgoing?_accept (q : Query) (s : Station σ) (payload : Json) :
    (Output.effects (accept q s payload).outputs).filterMap Effect.outgoing? = [] := by
  simp only [accept]
  split
  · simp only [Output.effects_append, Output.effects_notices]
    rfl
  · simp only [Output.effects_append, Output.effects_notices, List.nil_append]
    exact Event.outgoing?_begin s _

/-! ### All steps -/

section Sends

variable [Channel σ]

theorem Errand.sends_step (now : Nat) (s : Station (Recorded σ)) (e : Errand) :
    Recorded.Sends s.channel (e.step now s).station.channel
      (.stamped now (e.step now s).outputs) := by
  cases e with
  | asking id confirmed => exact List.map_append
  | reporting | linking =>
    refine .of_quiet now ?_ rfl
    simp only [step, Output.effects_notices]
    rfl

theorem Turn.sends_step (q : Query) (now : Nat) (s : Station (Recorded σ)) (t : Turn) :
    Recorded.Sends s.channel (t.step q now s).station.channel
      (.stamped now (t.step q now s).outputs) := by
  cases t with
  | ready =>
    simp only [step]
    split
    · exact List.map_append
    · exact (List.append_nil _).symm
  | receiving reply =>
    simp only [step]
    split
    · refine .of_quiet now ?_ rfl
      simp only [Output.effects_append, Output.effects_notices]
      cases q <;> rfl
    · refine .of_quiet now ?_ (channel_accept q s _)
      simp only [Output.effects_append, Output.effects_notices, List.nil_append]
      exact outgoing?_accept q s _
  | running e => exact e.sends_step now s

/-- A tick sends what is recorded in it. -/
theorem Tick.sends_run (now : Nat) (s : Station (Recorded σ)) :
    Recorded.Sends s.channel (run now s).station.channel (run now s).history := by
  rw [← finish_start]
  exact runFor_sends (fun now s t => t.turn.sends_step t.query now s) _ _ _ _

end Sends

/-! ## The record of a session -/

namespace BegunTick

variable [Channel σ]

/-- What the tick comes to when its calls are recorded. -/
def recordedRun (b : BegunTick σ) : Run (Recorded σ) := Tick.run b.start b.station.recorded

/-- The calls of the tick. -/
def calls (b : BegunTick σ) : List Ended := b.recordedRun.station.channel.calls

/-- To record the calls of a tick changes nothing else. -/
theorem map_recordedRun (b : BegunTick σ) : b.recordedRun.map Station.unrecorded = b.run :=
  Tick.run_seen Recorded.isView b.start b.station.recorded

/-- The calls of a tick are what it sends. -/
theorem sent_calls (b : BegunTick σ) : b.calls.map Ended.sent = b.run.history.sent := by
  have sends : b.calls.map Ended.sent = [] ++ b.recordedRun.history.sent :=
    Tick.sends_run b.start b.station.recorded
  rw [sends, List.nil_append, ← b.map_recordedRun]
  rfl

end BegunTick

namespace Tick

variable [Channel σ]

/-- A tick puts its calls behind those that were recorded before. -/
theorem calls_run (now : Nat) (r : Station (Recorded σ)) :
    (run now r).station.channel.calls =
      r.channel.calls ++ (⟨now, r.unrecorded⟩ : BegunTick σ).calls := by
  have same : r.unrecorded.recorded.seen (Recorded.since r.channel.calls) = r := by
    simp only [Station.recorded, Station.unrecorded, Station.seen, Recorded.since, List.append_nil]
  have run := run_seen (Recorded.isView_since r.channel.calls) now r.unrecorded.recorded
  rw [same] at run
  rw [← run]
  rfl

/-- The record of a session is the calls of its ticks, in order. -/
theorem calls_session (ls : List Lull) (now : Nat) (r : Station (Recorded σ)) :
    (session ls now r).station.channel.calls =
      r.channel.calls ++ (begun ls now r.unrecorded).flatMap BegunTick.calls := by
  induction ls generalizing now r with
  | nil => exact (List.append_nil _).symm
  | cons l ls ih =>
    have tick := calls_run (now + l.wait) (r.after l)
    -- The next tick begins on what this one leaves, recorded or not.
    have seen : (run (now + l.wait) (r.after l)).map Station.unrecorded =
        run (now + l.wait) (r.unrecorded.after l) :=
      run_seen Recorded.isView (now + l.wait) (r.after l)
    have station := congrArg Run.station seen
    have time := congrArg Run.time seen
    simp only [Run.map] at station time
    simp only [session, begun, Run.andThen, List.flatMap_cons]
    rw [ih, tick, station, time, List.append_assoc]
    rfl

end Tick

end DaemonWatch
