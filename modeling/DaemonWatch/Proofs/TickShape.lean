/-
  The shape of a tick.

  The effects of a tick are four segments, one for each query and in their order.  A segment is
  empty exactly when the daemon did not count as connected in its turn; otherwise it is the query
  and what may follow upon it, whatever the reply.  So no failure in one turn takes anything from a
  later one.

  1. **Specification.**  `Sequel` is the grammar of what may follow upon each query, and a `Segment`
     is empty or is a query with its sequel.  Both speak of effects only and know no station.

  2. **Watching** (`Watched`).  What the daemon answered when it was asked whether it is connected
     is no effect.  So the calls of the channel are written down by watching it, and as the watch is
     a view of the channel it changes nothing else (`Tick.run_unwatched`).

  3. **The crux (`Heard`)**: some work has certain effects, and the channel hears certain calls
     meanwhile.  It is composed along with the work (`Heard.andThen`), and found layer by layer: for
     errands, for what events lead to (`Event.heard_handle`), and for the turn of a query, whose
     effects are a segment and whose calls are the question whether the daemon is connected and then
     the calls of the segment (`Turn.heard_run`).

  4. **Result.**  A tick is four such turns (`Tick.heard_run`, `tick_shape`).
-/
import DaemonWatch.Proofs.ChannelView
import DaemonWatch.Rehearsal

namespace DaemonWatch

variable {σ : Type}

/-! ## The grammar of effects -/

/-- What may follow upon a query: nothing, or what its reply leads to.  Only the notifications bring
the user or a link command in, and a status without activity shows a rate of zero. -/
inductive Sequel : Query → List Effect → Prop
  | noEvent : Sequel .events []
  | download (m : TrayMessage) : Sequel .events [.message m]
  | refusal (title body : String) : Sequel .events [.warning title body]
  | noNotification : Sequel .notification []
  | message (m : TrayMessage) : Sequel .notification [.message m]
  | prompt (text question id : String) (cancelled : Bool) :
      Sequel .notification [.prompt text question, .confirmation id cancelled]
  | link (request : ActionRequest) (account : Account) :
      Sequel .notification [.link request account]
  | noStatus : Sequel .status []
  | status (active : Bool) (sent received : Nat)
      (idle : active = false → sent = 0 ∧ received = 0) :
      Sequel .status [.rotate active, .rate sent received]
  | errors (es : List SyncError) : Sequel .errors [.errors es]

/-- The effects of the turn of a query, by whether the daemon counted as connected.  The query comes
first and what follows it depends on the reply; when the daemon did not count as connected there is
no effect at all. -/
inductive Segment (q : Query) : Bool → List Effect → Prop
  | skipped : Segment q false []
  | asked {after : List Effect} (sequel : Sequel q after) : Segment q true (.query q :: after)

/-! ## Watching a channel -/

/-- A call of a channel, with the answer where that is whether the daemon is connected. -/
inductive Call
  | connected (answer : Bool)
  | query (q : Query)
  | confirm (id : String) (cancelled : Bool)
  deriving Repr, DecidableEq

/-- Whether the daemon was said to be connected, if that was asked. -/
def Call.answer? : Call → Option Bool
  | connected answer => some answer
  | _ => none

/-- The call of the channel that an effect is, if it is one. -/
def Effect.call? : Effect → Option Call
  | query q => some (.query q)
  | confirmation id cancelled => some (.confirm id cancelled)
  | _ => none

/-- A channel and the calls that it has had.  Unlike a record of calls it also keeps the answers to
whether the daemon is connected, which no effect tells. -/
structure Watched (σ : Type) where
  channel : σ
  calls : List Call

instance [Channel σ] : Channel (Watched σ) where
  connected now w :=
    let (answer, channel) := Channel.connected now w.channel
    (answer, ⟨channel, w.calls ++ [.connected answer]⟩)
  query q now w :=
    let (reply, channel) := Channel.query q now w.channel
    (reply, ⟨channel, w.calls ++ [.query q]⟩)
  confirm id cancelled now w :=
    let (reply, channel) := Channel.confirm id cancelled now w.channel
    (reply, ⟨channel, w.calls ++ [.confirm id cancelled]⟩)

namespace Station

/-- The station with its channel watched from now on. -/
def watched (s : Station σ) : Station (Watched σ) :=
  { channel := ⟨s.channel, []⟩, preferences := s.preferences, book := s.book, links := s.links
    answers := s.answers, clock := s.clock, memo := s.memo }

/-- The station without the watch on its channel. -/
def unwatched (w : Station (Watched σ)) : Station σ :=
  { channel := w.channel.channel, preferences := w.preferences, book := w.book, links := w.links
    answers := w.answers, clock := w.clock, memo := w.memo }

end Station

/-! ## Watching changes nothing -/

/-- A watched channel answers as the channel does. -/
theorem Watched.isView [Channel σ] : Channel.IsView (Watched.channel (σ := σ)) where
  connected _ _ := rfl
  query _ _ _ := rfl
  confirm _ _ _ _ := rfl

/-- The watch on the channel changes nothing else. -/
theorem Tick.run_unwatched [Channel σ] (now : Nat) (w : Station (Watched σ)) :
    (run now w).map Station.unwatched = run now w.unwatched :=
  run_seen Watched.isView now w

/-! ## What the channel hears -/

/-- That some work has certain effects, and that the channel hears certain calls meanwhile. -/
structure Heard (w : Station (Watched σ)) (calls : List Call) (given : List Effect)
    (run : Run (Watched σ)) : Prop where
  effects : run.history.effects = given
  calls : run.station.channel.calls = w.channel.calls ++ calls

namespace Heard

variable {w s : Station (Watched σ)} {calls calls' : List Call} {given given' : List Effect}

/-- Some work and then more has the effects and the calls of both. -/
theorem andThen {first : Run (Watched σ)}
    {more : Nat → Station (Watched σ) → Run (Watched σ)} (here : Heard w calls given first)
    (there : Heard first.station calls' given' (more first.time first.station)) :
    Heard w (calls ++ calls') (given ++ given') (first.andThen more) := by
  constructor
  · rw [Run.andThen, History.effects_append, here.effects, there.effects]
  · rw [Run.andThen, there.calls, here.calls, List.append_assoc]

/-- What is given off at one time is not heard by the channel. -/
theorem of_stamped (outputs : List Output) (now later : Nat) (same : s.channel = w.channel) :
    Heard w [] (Output.effects outputs) ⟨.stamped now outputs, s, later⟩ := by
  constructor
  · exact History.effects_stamped now outputs
  · rw [same, List.append_nil]

end Heard

/-- An answer that is coming is reported, and then nothing has an effect. -/
theorem Errand.heard_asking [Channel σ] (now : Nat) (w : Station (Watched σ)) (id : String)
    (confirmed : Bool) :
    Heard w [.confirm id (!confirmed)] [.confirmation id (!confirmed)]
      (runFor step 2 now w (.asking id confirmed)) := by
  refine ⟨?_, rfl⟩
  simp only [runFor, step, History.effects_append, History.effects_stamped,
    Output.effects_notices]
  rfl

/-- The end of a link command has no effect. -/
theorem Errand.heard_linking [Channel σ] (now : Nat) (w : Station (Watched σ))
    (request : ActionRequest) (reply : Reply Unit) :
    Heard w [] [] (runFor step 1 now w (.linking request reply)) := by
  have silent := Output.effects_notices (linkNotices request reply)
  rw [← silent]
  exact .of_stamped _ now now rfl

/-! ## What an event comes to -/

/-- A link command begins, or nothing does. -/
theorem FollowUp.begin_runLink (s : Station σ) (request : ActionRequest) :
    (runLink request).begin s = ⟨[], s, none⟩ ∨
      ∃ account reply s', s'.channel = s.channel ∧
        (runLink request).begin s =
          ⟨[.effect (.link request account)], s', some (reply.delay, .linking request reply)⟩ := by
  simp only [begin]
  split
  · exact .inr ⟨_, _, _, s.channel_takeLinkOutcome request.action, rfl⟩
  · exact .inl rfl

namespace Event

/-- The query in reply to which an event comes. -/
def query : Event → Query
  | drive _ => .events
  | notification _ => .notification
  | status _ => .status
  | errors _ => .errors

variable [Channel σ] {e : Event} {w : Station (Watched σ)}

/-- An event that shows something leaves nothing to do. -/
theorem heard_of_shows (now : Nat) {outputs : List Output}
    (reacts : e.react w.preferences = { outputs := outputs }) :
    Heard w [] (Output.effects outputs) (e.handle now w) := by
  simp only [handle, begin, reacts]
  exact .of_stamped outputs now now rfl

/-- An event that leaves something to do shows nothing. -/
theorem handle_of_followUp (now : Nat) {s : Station σ} {f : FollowUp}
    (reacts : e.react s.preferences = { followUp := some f }) :
    e.handle now s =
      let first := f.begin { s with memo := e.remember s.memo }
      match first.next with
      | none => ⟨.stamped now first.outputs, first.station, now⟩
      | some (delay, errand) =>
        (⟨.stamped now first.outputs, first.station, now + delay⟩ : Run σ).andThen
          fun later s => runFor Errand.step errand.rank later s errand := by
  simp only [handle, begin, reacts]
  rfl

/-- Only a notification can leave something to do. -/
theorem followUp_of_ne (other : e.query ≠ .notification) (p : Preferences) :
    (e.react p).followUp = none := by
  cases e with
  | notification n => exact absurd rfl other
  | drive | status | errors => rfl

/-- An event that leaves nothing to do is handled at once. -/
theorem handle_of_ne (other : e.query ≠ .notification) (now : Nat) (s : Station σ) :
    e.handle now s =
      ⟨.stamped now (e.react s.preferences).outputs, s.remembering e, now⟩ := by
  simp only [handle, begin_eq, followUp_of_ne other]

/-- When the user is asked, the answer is reported, and nothing else happens. -/
theorem heard_of_askUser (now : Nat) {id text question : String}
    (reacts : e.react w.preferences = { followUp := some (.askUser id text question) }) :
    ∃ cancelled, Heard w [.confirm id cancelled]
      [.prompt text question, .confirmation id cancelled] (e.handle now w) := by
  rw [handle_of_followUp now reacts]
  let asked := ({ w with memo := e.remember w.memo } : Station (Watched σ)).takeAnswer
  have same : asked.2.channel = w.channel := Station.channel_takeAnswer _
  have first := Heard.of_stamped [.effect (.prompt text question)] now (now + asked.1.delay) same
  exact ⟨!asked.1.value, first.andThen (Errand.heard_asking _ _ id asked.1.value)⟩

/-- A link command is run with an account of the user, or not at all. -/
theorem heard_of_runLink (now : Nat) {request : ActionRequest}
    (reacts : e.react w.preferences = { followUp := some (.runLink request) }) :
    ∃ after, (after = [] ∨ ∃ account, after = [.link request account]) ∧
      Heard w [] after (e.handle now w) := by
  rw [handle_of_followUp now reacts]
  rcases FollowUp.begin_runLink { w with memo := e.remember w.memo } request with
    idle | ⟨account, reply, s, same, begun⟩
  · rw [idle]
    exact ⟨[], .inl rfl, .of_stamped [] now now rfl⟩
  · rw [begun]
    have kept : s.channel = w.channel := same
    have first := Heard.of_stamped [.effect (.link request account)] now (now + reply.delay) kept
    exact ⟨_, .inr ⟨account, rfl⟩, first.andThen (Errand.heard_linking _ s request reply)⟩

end Event

/-! ## What an event shows -/

/-- What may follow upon the query for events is not heard by the channel. -/
theorem Sequel.call?_events {after : List Effect} (sequel : Sequel .events after) :
    after.filterMap Effect.call? = [] := by
  cases sequel <;> rfl

/-- A drive event shows a message, a warning or nothing. -/
theorem DriveEvent.sequel_shown (e : DriveEvent) : Sequel .events e.shown := by
  unfold shown
  split
  · exact .download _
  · exact .download _
  · exact .refusal _ _
  · exact .refusal _ _
  · exact .noEvent

/-- A status shows the rate only while there is activity. -/
theorem TransferStatus.sequel_shown (s : TransferStatus) : Sequel .status s.shown := by
  refine .status _ _ _ ?_
  intro idle
  simp [displayedRate, idle]

/-- A notification leads to at most one message, or to an errand and nothing else. -/
theorem Notification.react_cases (p : Preferences) (n : Notification) :
    (∃ outputs, n.react p = { outputs := outputs } ∧
      (Output.effects outputs = [] ∨ ∃ m, Output.effects outputs = [.message m])) ∨
    ∃ f, n.react p = { followUp := some f } := by
  cases n with
  | syncDone c | multipartUpload c =>
    left
    simp only [react]
    split
    · exact ⟨_, rfl, .inr ⟨_, rfl⟩⟩
    · exact ⟨[], rfl, .inl rfl⟩
  | syncError c errorId path description =>
    left
    simp only [react]
    split
    · exact ⟨[], rfl, .inl rfl⟩
    · exact ⟨_, rfl, .inr ⟨_, rfl⟩⟩
  | filesystemLoaded c | move stage source destination => exact .inl ⟨_, rfl, .inr ⟨_, rfl⟩⟩
  | deleteFiles id repoName summary | deleteRepo id repoName | action request => exact .inr ⟨_, rfl⟩
  | unknown kind c => exact .inl ⟨_, rfl, .inl rfl⟩

variable [Channel σ]

/-- An event that shows what may follow upon its query, and nothing that the channel hears. -/
theorem Event.heard_of_sequel (now : Nat) {w : Station (Watched σ)} {e : Event}
    {outputs : List Output} (reacts : e.react w.preferences = { outputs := outputs })
    (sequel : Sequel e.query (Output.effects outputs))
    (quiet : (Output.effects outputs).filterMap Effect.call? = []) :
    ∃ after, Sequel e.query after ∧
      Heard w (after.filterMap Effect.call?) after (e.handle now w) := by
  refine ⟨_, sequel, ?_⟩
  rw [quiet]
  exact heard_of_shows now reacts

/-- Handling a notification has the effects that may follow upon the query for it. -/
theorem Notification.heard_handle (now : Nat) (w : Station (Watched σ)) (n : Notification) :
    ∃ after, Sequel .notification after ∧
      Heard w (after.filterMap Effect.call?) after ((Event.notification n).handle now w) := by
  rcases n.react_cases w.preferences with ⟨outputs, reacts, quiet | ⟨m, shown⟩⟩ | ⟨f, reacts⟩
  · refine Event.heard_of_sequel now (e := .notification n) reacts ?_ ?_ <;> rw [quiet]
    · exact .noNotification
    · rfl
  · refine Event.heard_of_sequel now (e := .notification n) reacts ?_ ?_ <;> rw [shown]
    · exact .message m
    · rfl
  · cases f with
    | askUser id text question =>
      obtain ⟨cancelled, heard⟩ := Event.heard_of_askUser now (e := .notification n) reacts
      exact ⟨_, .prompt text question id cancelled, heard⟩
    | runLink request =>
      obtain ⟨after, rfl | ⟨account, rfl⟩, heard⟩ :=
        Event.heard_of_runLink now (e := .notification n) reacts
      · exact ⟨[], .noNotification, heard⟩
      · exact ⟨_, .link request account, heard⟩

/-- Handling an event has the effects that may follow upon its query. -/
theorem Event.heard_handle (now : Nat) (w : Station (Watched σ)) (e : Event) :
    ∃ after, Sequel e.query after ∧
      Heard w (after.filterMap Effect.call?) after (e.handle now w) := by
  -- Only a notification can leave something to do; the others show all their effects at once.
  cases e with
  | drive e =>
    have sequel : Sequel .events (Output.effects (e.shown.map .effect)) := by
      rw [Output.effects_effects]
      exact e.sequel_shown
    exact heard_of_sequel now rfl sequel sequel.call?_events
  | status s =>
    refine heard_of_sequel now rfl ?_ rfl
    rw [Output.effects_effects]
    exact s.sequel_shown
  | errors es => exact heard_of_sequel now rfl (.errors es) rfl
  | notification n => exact n.heard_handle now w

/-! ## Turns -/

/-- A payload is decoded to an event of the query; only that of the error list always is. -/
theorem Event.decode_cases (now : Int) (q : Query) (payload : Json) :
    (∃ notices message, q ≠ .errors ∧ decode now q payload = (notices, .error message)) ∨
      ∃ notices e, e.query = q ∧ decode now q payload = (notices, .ok e) := by
  unfold decode
  split
  next broken =>
    left
    simp only [Bool.and_eq_true, decide_eq_true_eq] at broken
    exact ⟨_, _, broken.1, rfl⟩
  next => cases q <;> exact .inr ⟨_, _, rfl, rfl⟩

/-- Upon every query but that for the error list nothing may follow. -/
theorem Sequel.nothing {q : Query} (other : q ≠ .errors) : Sequel q [] := by
  cases q with
  | events => exact .noEvent
  | notification => exact .noNotification
  | status => exact .noStatus
  | errors => exact absurd rfl other

namespace Turn

/-- A query that fails shows nothing, or an empty error list in its own turn. -/
theorem sequel_shownOnFailure (q : Query) : Sequel q (Output.effects (shownOnFailure q)) := by
  cases q with
  | events => exact .noEvent
  | notification => exact .noNotification
  | status => exact .noStatus
  | errors => exact .errors []

/-- When a reply has come, its turn has the effects that may follow upon the query.  There are three
ways: the query has failed, its payload is not decoded, or it is decoded to an event, which is
handled. -/
theorem heard_receiving (q : Query) (now : Nat) (w : Station (Watched σ)) (reply : Reply Json) :
    ∃ after, Sequel q after ∧
      Heard w (after.filterMap Effect.call?) after ((receiving reply).finish q now w) := by
  cases came : reply.result with
  | error f =>
    have heard := Heard.of_stamped (reply.notices.map .notice ++ shownOnFailure q) now now
      (rfl : w.channel = w.channel)
    rw [Output.effects_append, Output.effects_notices, List.nil_append] at heard
    rw [finish_receiving_of_error q now w came]
    refine ⟨_, sequel_shownOnFailure q, ?_⟩
    cases q <;> exact heard
  | ok payload =>
    rcases Event.decode_cases w.clock q payload with
      ⟨notices, message, other, decoded⟩ | ⟨notices, e, rfl, decoded⟩
    · have heard := Heard.of_stamped
        ((reply.notices ++ notices).map .notice ++ [.notice (.undecodable q message)]) now now
        (rfl : w.channel = w.channel)
      rw [Output.effects_append, Output.effects_notices] at heard
      rw [finish_receiving_of_undecodable q now w came decoded]
      exact ⟨[], .nothing other, heard⟩
    · have first := Heard.of_stamped ((reply.notices ++ notices).map .notice) now now
        (rfl : w.channel = w.channel)
      rw [Output.effects_notices] at first
      rw [finish_receiving_of_event e.query now w came decoded]
      obtain ⟨after, sequel, heard⟩ := e.heard_handle now w
      exact ⟨after, sequel, first.andThen heard⟩

/-- The turn of a query is a segment; the channel is asked whether the daemon is connected, and then
hears the calls of the segment. -/
theorem heard_run (q : Query) (now : Nat) (w : Station (Watched σ)) :
    ∃ answer effects, Segment q answer effects ∧
      Heard w (.connected answer :: effects.filterMap Effect.call?) effects (run q now w) := by
  cases answer : (Channel.connected now w.channel.channel).1 with
  | false =>
    have off : (Channel.connected now w.channel).1 = false := answer
    rw [run_of_disconnected q off]
    refine ⟨false, [], .skipped, rfl, ?_⟩
    rw [← answer]
    rfl
  | true =>
    have on : (Channel.connected now w.channel).1 = true := answer
    rw [run_of_connected q on]
    let asked := Channel.query q now (Channel.connected now w.channel).2
    have put : Heard w [.connected true, .query q] [.query q]
        ⟨.stamped now [.effect (.query q)], { w with channel := asked.2 }, now + asked.1.delay⟩ := by
      refine ⟨rfl, ?_⟩
      show w.channel.calls ++ [.connected _] ++ [.query q] = _
      rw [answer, List.append_assoc]
      rfl
    -- What may follow upon the query comes with the reply.
    obtain ⟨after, sequel, heard⟩ :=
      heard_receiving q (now + asked.1.delay) { w with channel := asked.2 } asked.1
    exact ⟨true, _, .asked sequel, put.andThen heard⟩

end Turn

/-! ## The shape of a tick -/

/-- The turns of a tick are heard one after the other. -/
theorem Tick.heard_run (now : Nat) (w : Station (Watched σ)) :
    ∃ a b c d events notification status errors,
      Segment .events a events ∧ Segment .notification b notification ∧
      Segment .status c status ∧ Segment .errors d errors ∧
      Heard w
        ((.connected a :: events.filterMap Effect.call?) ++
          ((.connected b :: notification.filterMap Effect.call?) ++
            ((.connected c :: status.filterMap Effect.call?) ++
              (.connected d :: errors.filterMap Effect.call?))))
        (events ++ (notification ++ (status ++ errors))) (run now w) := by
  rw [run_eq]
  let first := Turn.run .events now w
  let second := Turn.run .notification first.time first.station
  let third := Turn.run .status second.time second.station
  obtain ⟨a, events, is_events, heard₁⟩ := Turn.heard_run .events now w
  obtain ⟨b, notification, is_notification, heard₂⟩ :=
    Turn.heard_run .notification first.time first.station
  obtain ⟨c, status, is_status, heard₃⟩ := Turn.heard_run .status second.time second.station
  obtain ⟨d, errors, is_errors, heard₄⟩ := Turn.heard_run .errors third.time third.station
  exact ⟨a, b, c, d, events, notification, status, errors, is_events, is_notification, is_status,
    is_errors, heard₁.andThen (heard₂.andThen (heard₃.andThen heard₄))⟩

/-- The effects of a segment are no questions whether the daemon is connected. -/
theorem Call.answer?_call? (effects : List Effect) :
    (effects.filterMap Effect.call?).filterMap Call.answer? = [] := by
  induction effects with
  | nil => rfl
  | cons e effects ih => cases e <;> exact ih

/-- **The shape of a tick.**  Whatever the daemon replies, the effects of a tick are four segments
in the order of the queries, and it is asked four times whether the daemon is connected: each time
before a segment, which is empty exactly when the answer is no.  Watching the channel, by which this
is known, changes nothing else. -/
theorem tick_shape (now : Nat) (s : Station σ) :
    ∃ a b c d events notification status errors,
      Segment .events a events ∧ Segment .notification b notification ∧
      Segment .status c status ∧ Segment .errors d errors ∧
      (Tick.run now s).history.effects = events ++ notification ++ status ++ errors ∧
      (Tick.run now s.watched).map Station.unwatched = Tick.run now s ∧
      (Tick.run now s.watched).station.channel.calls =
        (.connected a :: events.filterMap Effect.call?) ++
        (.connected b :: notification.filterMap Effect.call?) ++
        (.connected c :: status.filterMap Effect.call?) ++
        (.connected d :: errors.filterMap Effect.call?) ∧
      (Tick.run now s.watched).station.channel.calls.filterMap Call.answer? = [a, b, c, d] := by
  obtain ⟨a, b, c, d, events, notification, status, errors, is_events, is_notification, is_status,
    is_errors, effects, calls⟩ := Tick.heard_run now s.watched
  have same : (Tick.run now s.watched).map Station.unwatched = Tick.run now s :=
    Tick.run_unwatched now s.watched
  have history : (Tick.run now s.watched).history = (Tick.run now s).history :=
    congrArg Run.history same
  have none : s.watched.channel.calls = [] := rfl
  rw [none, List.nil_append] at calls
  refine ⟨a, b, c, d, events, notification, status, errors, is_events, is_notification, is_status,
    is_errors, ?_, same, ?_, ?_⟩
  · rw [← history, effects]
    simp only [List.append_assoc]
  · rw [calls]
    simp only [List.append_assoc]
  · rw [calls]
    simp only [List.filterMap_append, List.filterMap_cons, Call.answer?, Call.answer?_call?]
    rfl

/-- The daemon is lost after the first turn, and is back for the last one. -/
example :
    (Tick.run 0 { channel := ({ connections := [true, false, false, true] } : Rehearsal) }
      ).history.effects = [.query .events, .query .errors, .errors []] := by
  decide

end DaemonWatch
