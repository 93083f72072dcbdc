/-
  A client that has lost the connection is left alone for a while.

  Two things are proved of a session over the client, whatever the network does.  After a call that
  failed in transport, and as long as no call ends otherwise, no query is put to the daemon for two
  seconds.  And in every tick a call that fails in transport is the last one.

  1. **Since when the connection is lost** (`Ended.LostSince`): after some calls it is lost at least
     since the end of one of them, if that call and all behind it failed in transport.

  2. **The first crux (`Recorded.BacksOff`)**: all recorded calls have ended by now, the client
     knows since when the connection is lost, and every query was put two seconds or more after
     that.  One more call keeps it, if it is no query or the daemon counts as connected
     (`Recorded.BacksOff.call`); what is needed of the client is `Client.Notes`.  As this is what is
     asked of something that the calls of a channel keep, a whole session keeps it
     (`Tick.keeps_session`).

  3. **The second crux (`Run.WellOrBroken`)**: some work goes well to its end, with no call that
     fails in transport, or it breaks off with the first that does.  Behind that call nothing has an
     effect, but for the empty error list when it is the query for the errors, and at the end the
     daemon counts as disconnected.  It is composed along with the work: what breaks off stays
     broken off when nothing is done behind it (`Run.BreaksOff.andThen`).  Between the turns of a
     tick no time passes, so the turns behind a lost connection are all skipped
     (`Turn.run_of_lost`), and a tick goes well or breaks off (`Tick.wellOrBroken_run`).

  4. **Result.**  `back_off` says both of the ticks of a session, by their records.
-/
import DaemonWatch.Proofs.Connectivity
import DaemonWatch.Proofs.ErrorList

namespace DaemonWatch

variable {σ : Type}

/-! ## Since the connection is lost -/

/-- One of some calls and one more is that one, or it is among those before it. -/
theorem Ended.concat_eq_append_cons {calls before behind : List Ended} {e g : Ended}
    (split : calls ++ [g] = before ++ e :: behind) :
    (behind = [] ∧ before = calls ∧ e = g) ∨
      ∃ rest, behind = rest ++ [g] ∧ calls = before ++ e :: rest := by
  rcases List.eq_nil_or_concat behind with rfl | ⟨rest, last, rfl⟩
  · obtain ⟨whole, same⟩ := List.append_inj' split rfl
    exact .inl ⟨rfl, whole.symm, (List.singleton_inj.mp same).symm⟩
  · rw [List.concat_eq_append, ← List.cons_append, ← List.append_assoc] at split
    obtain ⟨whole, same⟩ := List.append_inj' split rfl
    obtain rfl : g = last := List.singleton_inj.mp same
    exact .inr ⟨rest, List.concat_eq_append, whole⟩

/-- That after some calls the connection is lost at least since the end of one of them: its
transport failed, and so did that of every call behind it. -/
def Ended.LostSince (calls : List Ended) (e : Ended) : Prop :=
  ∃ before behind, calls = before ++ e :: behind ∧ e.isLoss ∧ ∀ c ∈ behind, c.isLoss

/-- With one more call the connection goes on to be lost if the transport fails again. -/
theorem Ended.lostSince_concat_iff {calls : List Ended} {e g : Ended} :
    LostSince (calls ++ [g]) e ↔ g.isLoss ∧ (e = g ∨ LostSince calls e) := by
  constructor
  · rintro ⟨before, behind, split, loss, losses⟩
    rcases concat_eq_append_cons split with ⟨_, _, rfl⟩ | ⟨rest, rfl, whole⟩
    · exact ⟨loss, .inl rfl⟩
    · rw [List.forall_mem_append] at losses
      exact ⟨losses.2 g List.mem_cons_self, .inr ⟨before, rest, whole, loss, losses.1⟩⟩
  · rintro ⟨loss, rfl | ⟨before, behind, whole, lost, losses⟩⟩
    · exact ⟨calls, [], rfl, loss, by simp⟩
    · refine ⟨before, behind ++ [g], by simp [whole], lost, ?_⟩
      rw [List.forall_mem_append]
      exact ⟨losses, by simpa using loss⟩

/-! ## Keeping off -/

/-- That at some time all recorded calls have ended, that the client knows since when the connection
is lost, and that every query was put two seconds or more after the connection was lost. -/
structure Recorded.BacksOff (now : Nat) (r : Recorded Client) : Prop where
  ended : ∀ e ∈ r.calls, e.stop ≤ now
  known : ∀ e, Ended.LostSince r.calls e → ∃ since, r.channel.lostAt = some since ∧ e.stop ≤ since
  apart : ∀ before f q, before ++ [f] <+: r.calls → f.call = .query q →
    ∀ e, Ended.LostSince before e → e.stop + Client.reconnectDelay ≤ f.start

namespace Recorded.BacksOff

/-- A client without a record has backed off. -/
theorem of_nil (now : Nat) (c : Client) : BacksOff now { channel := c } where
  ended := by simp
  known := by
    rintro e ⟨before, behind, none, _⟩
    simp at none
  apart := by
    intro before f q none
    simp at none

/-- One more call keeps to it, if it is no query or the daemon counts as connected.  A query that is
the new call was made at a moment when it did, and the client says so only when any loss is two
seconds back; other queries kept to it before. -/
theorem call {now : Nat} {r r' : Recorded Client} {g : Ended} (here : BacksOff now r)
    (made : r'.calls = r.calls ++ [g]) (notes : Client.Notes r.channel r'.channel g)
    (start : g.start = now) (stop : now ≤ g.stop)
    (may : ∀ q, g.call = .query q → r.channel.isConnected now = true) : BacksOff g.stop r' where
  ended := by
    intro e mem
    rw [made, List.mem_append, List.mem_singleton] at mem
    rcases mem with before | rfl
    · exact Nat.le_trans (here.ended e before) stop
    · exact Nat.le_refl _
  known := by
    intro e lost
    rw [made, Ended.lostSince_concat_iff] at lost
    obtain ⟨loss, rfl | before⟩ := lost
    · exact ⟨e.stop, by rw [notes.lostAt, if_pos loss], Nat.le_refl _⟩
    · obtain ⟨earlier, behind, whole, _⟩ := before
      have early := here.ended e (by simp [whole])
      exact ⟨g.stop, by rw [notes.lostAt, if_pos loss], Nat.le_trans early stop⟩
  apart := by
    intro before f q isPrefix query e lost
    rw [made, List.prefix_concat_iff] at isPrefix
    rcases isPrefix with whole | earlier
    · -- The query is the new call, which was made at a moment when the daemon counted as connected.
      obtain ⟨rfl, same⟩ := List.append_inj' whole rfl
      obtain rfl : f = g := List.singleton_inj.mp same
      obtain ⟨since, lostAt, early⟩ := here.known e lost
      have on := may q query
      rw [Client.isConnected, lostAt] at on
      have waited : Client.reconnectDelay ≤ now - since := of_decide_eq_true on
      rw [start]
      simp only [Client.reconnectDelay] at waited ⊢
      omega
    · exact here.apart before f q earlier query e lost

/-- Every call keeps to it, when queries are only put while the daemon counts as connected. -/
theorem keeps : Channel.Keeps BacksOff where
  wait later here := { here with ended := fun e mem => Nat.le_trans (here.ended e mem) later }
  connected here := here
  query q now r on here := by
    let e := Ended.ofReply (.query q) now (Channel.query q now r.channel).1
    have notes := Client.notes_query q now r.channel
    have kept : BacksOff e.stop (Channel.query q now r).2 :=
      here.call rfl notes rfl (Nat.le_add_right _ _) fun _ _ => on
    exact kept
  confirm id cancelled now r here := by
    let e := Ended.ofReply (.report id cancelled) now (Channel.confirm id cancelled now r.channel).1
    have notes := Client.notes_confirm id cancelled now r.channel
    have kept : BacksOff e.stop (Channel.confirm id cancelled now r).2 := by
      refine here.call rfl notes rfl (Nat.le_add_right _ _) ?_
      intro q no
      cases no
    exact kept

end Recorded.BacksOff

/-! ## What handling an event asks of the channel -/

/-- When the answer to a question has come, it is reported, and how that ends is logged. -/
theorem Errand.run_asking [Channel σ] (now : Nat) (s : Station σ) (id : String)
    (confirmed : Bool) :
    let told := Channel.confirm id (!confirmed) now s.channel
    runFor step 2 now s (.asking id confirmed) =
      ⟨.stamped now [.effect (.confirmation id (!confirmed))] ++
        .stamped (now + told.1.delay) ((reportNotices id (!confirmed) told.1).map .notice),
        { s with channel := told.2 }, now + told.1.delay⟩ := rfl

/-- Handling an event makes no call, or it is a question to the user and then the report of the
answer. -/
theorem Event.handle_cases [Channel σ] (now : Nat) (s : Station σ) (e : Event) :
    (e.handle now s).station.channel = s.channel ∨
      e.query = .notification ∧ ∃ text question id, ∃ asked : Timed Bool × Station σ,
        asked.2.channel = s.channel ∧
        e.handle now s =
          (⟨.stamped now [.effect (.prompt text question)], asked.2, now + asked.1.delay⟩ :
            Run σ).andThen fun later s => runFor Errand.step 2 later s (.asking id asked.1.value) := by
  by_cases notification : e.query = .notification
  · cases e with
    | drive | status | errors => cases notification
    | notification n =>
      rcases n.react_cases s.preferences with ⟨outputs, reacts, _⟩ | ⟨f, reacts⟩
      · left
        have nothing : ((Event.notification n).react s.preferences).followUp = none := by
          rw [react, reacts]
        simp only [handle, begin_eq, nothing]
        rfl
      · rw [handle_of_followUp now (e := .notification n) reacts]
        cases f with
        | askUser id text question =>
          exact .inr ⟨rfl, text, question, id, _, Station.channel_takeAnswer _, rfl⟩
        | runLink request =>
          left
          rcases FollowUp.begin_runLink (s.remembering (.notification n)) request with
            idle | ⟨account, reply, s', same, begun⟩
          · rw [Station.remembering] at idle
            rw [idle]
          · rw [Station.remembering] at begun
            rw [begun]
            exact same
  · left
    rw [handle_of_ne notification]
    rfl

/-! ## Work that goes well, and work that breaks off -/

namespace Run

variable {w : Station (Recorded Client)} {first : Run (Recorded Client)} {calls calls' : List Ended}
  {more : Nat → Station (Recorded Client) → Run (Recorded Client)} {e : Ended}
  {given : List Output} {notices : List Notice}

/-- That some work makes certain calls, and the transport of none fails.  They are the calls that
the record of the channel has got longer by. -/
structure GoesWell (w : Station (Recorded Client)) (calls : List Ended)
    (run : Run (Recorded Client)) : Prop where
  record : run.station.channel.calls = w.channel.calls ++ calls
  fine : ∀ c ∈ calls, c.isLoss = false

/-- That some work breaks off with a call whose transport fails: before, it makes certain calls that
end otherwise and gives off certain outputs; behind it comes nothing but notices, and an empty
error list if it is the query for the errors; and then the daemon counts as disconnected. -/
structure BreaksOff (w : Station (Recorded Client)) (calls : List Ended) (e : Ended)
    (given : List Output) (notices : List Notice) (run : Run (Recorded Client)) : Prop where
  record : run.station.channel.calls = w.channel.calls ++ (calls ++ [e])
  fine : ∀ c ∈ calls, c.isLoss = false
  loss : e.isLoss = true
  outputs : run.history.outputs = given ++ .effect e.call.effect :: notices.map .notice ++
    if e.call = .query .errors then [.effect (.errors [])] else []
  off : run.station.channel.channel.isConnected run.time = false

/-- Work that makes no calls goes well. -/
theorem GoesWell.of_same (same : first.station.channel = w.channel) : GoesWell w [] first where
  record := by rw [same, List.append_nil]
  fine := by simp

/-- What goes well after work that goes well. -/
theorem GoesWell.andThen (here : GoesWell w calls first)
    (there : GoesWell first.station calls' (more first.time first.station)) :
    GoesWell w (calls ++ calls') (first.andThen more) where
  record := by rw [Run.andThen, there.record, here.record, List.append_assoc]
  fine := List.forall_mem_append.mpr ⟨here.fine, there.fine⟩

/-- What breaks off after work that goes well. -/
theorem GoesWell.andThen_breaksOff (here : GoesWell w calls first)
    (there : BreaksOff first.station calls' e given notices (more first.time first.station)) :
    BreaksOff w (calls ++ calls') e (first.history.outputs ++ given) notices
      (first.andThen more) where
  record := by simp only [Run.andThen, there.record, here.record, List.append_assoc]
  fine := List.forall_mem_append.mpr ⟨here.fine, there.fine⟩
  loss := there.loss
  outputs := by
    rw [Run.andThen, History.outputs_append, there.outputs]
    simp only [List.append_assoc]
  off := there.off

/-- Work behind which nothing is done. -/
theorem BreaksOff.andThen (here : BreaksOff w calls e given notices first)
    (nothing : more first.time first.station = ⟨[], first.station, first.time⟩) :
    BreaksOff w calls e given notices (first.andThen more) := by
  have same : first.andThen more = first := by simp only [Run.andThen, nothing, List.append_nil]
  rw [same]
  exact here

/-- That some work goes well, or breaks off with one of certain calls.  Every turn of a tick is one
or the other, and only what goes well is followed by more calls. -/
def WellOrBroken (may : Outgoing → Prop) (w : Station (Recorded Client))
    (run : Run (Recorded Client)) : Prop :=
  (∃ calls, GoesWell w calls run) ∨
    ∃ calls e given notices, BreaksOff w calls e given notices run ∧ may e.call

theorem WellOrBroken.mono {may may' : Outgoing → Prop} {run : Run (Recorded Client)}
    (here : WellOrBroken may w run) (more : ∀ call, may call → may' call) :
    WellOrBroken may' w run := by
  rcases here with well | ⟨calls, e, given, notices, broken, this⟩
  · exact .inl well
  · exact .inr ⟨calls, e, given, notices, broken, more e.call this⟩

/-- What follows upon work that goes well decides. -/
theorem GoesWell.andThen_wellOrBroken {may : Outgoing → Prop} (here : GoesWell w calls first)
    (there : WellOrBroken may first.station (more first.time first.station)) :
    WellOrBroken may w (first.andThen more) := by
  rcases there with ⟨calls', well⟩ | ⟨calls', e, given, notices, broken, may⟩
  · exact .inl ⟨_, here.andThen well⟩
  · exact .inr ⟨_, e, _, notices, here.andThen_breaksOff broken, may⟩

end Run

/-! ### Turns -/

/-- The report of an answer goes well, or its transport fails and nothing but notices follows. -/
theorem Errand.wellOrBroken_asking (now : Nat) (w : Station (Recorded Client)) (id : String)
    (confirmed : Bool) :
    Run.WellOrBroken (· = .report id (!confirmed)) w (runFor step 2 now w (.asking id confirmed)) := by
  let told := Channel.confirm id (!confirmed) now w.channel.channel
  let c := Ended.ofReply (.report id (!confirmed)) now told.1
  have notes : Client.Notes w.channel.channel told.2 c :=
    Client.notes_confirm id (!confirmed) now w.channel.channel
  cases loss : c.isLoss with
  | false => exact .inl ⟨[c], rfl, by simpa using loss⟩
  | true =>
    refine .inr ⟨[], c, [], reportNotices id (!confirmed) told.1, ?_, rfl⟩
    refine ⟨rfl, by simp, loss, ?_, notes.isConnected_stop loss⟩
    simp only [run_asking, History.outputs_append, History.outputs_stamped]
    exact (List.append_nil _).symm

/-- Handling an event goes well, or breaks off with the report of an answer. -/
theorem Event.wellOrBroken_handle (now : Nat) (w : Station (Recorded Client)) (e : Event) :
    Run.WellOrBroken (fun _ => e.query = .notification) w (e.handle now w) := by
  rcases e.handle_cases now w with same | ⟨notification, text, question, id, asked, same, handled⟩
  · exact .inl ⟨[], .of_same same⟩
  · have shown : Run.GoesWell w [] ⟨.stamped now [.effect (.prompt text question)], asked.2,
        now + asked.1.delay⟩ := .of_same same
    rw [handled]
    have reported := Errand.wellOrBroken_asking (now + asked.1.delay) asked.2 id asked.1.value
    exact shown.andThen_wellOrBroken (reported.mono fun _ _ => notification)

namespace Turn

/-- What follows upon a reply goes well, or breaks off in the turn of the notifications. -/
theorem wellOrBroken_receiving (q : Query) (now : Nat) (w : Station (Recorded Client))
    (reply : Reply Json) :
    Run.WellOrBroken (fun _ => q = .notification) w ((receiving reply).finish q now w) := by
  cases came : reply.result with
  | error f =>
    rw [finish_receiving_of_error q now w came]
    exact .inl ⟨[], .of_same rfl⟩
  | ok payload =>
    rcases Event.decode_cases w.clock q payload with
      ⟨notices, message, _, decoded⟩ | ⟨notices, e, rfl, decoded⟩
    · rw [finish_receiving_of_undecodable q now w came decoded]
      exact .inl ⟨[], .of_same rfl⟩
    · rw [finish_receiving_of_event e.query now w came decoded]
      have read : Run.GoesWell w [] ⟨.stamped now ((reply.notices ++ notices).map .notice), w, now⟩ :=
        .of_same rfl
      exact read.andThen_wellOrBroken (e.wellOrBroken_handle now w)

/-- The turn of a query goes well, or breaks off with the query or, if that is for notifications,
with the report of an answer. -/
theorem wellOrBroken_run (q : Query) (now : Nat) (w : Station (Recorded Client)) :
    Run.WellOrBroken (fun call => call = .query q ∨ q = .notification) w (run q now w) := by
  cases on : (Channel.connected now w.channel).1 with
  | false =>
    rw [run_of_disconnected q on]
    exact .inl ⟨[], .of_same rfl⟩
  | true =>
    let asked := Channel.query q now w.channel.channel
    let c := Ended.ofReply (.query q) now asked.1
    let put : Run (Recorded Client) :=
      ⟨.stamped now [.effect (.query q)],
        { w with channel := ⟨asked.2, w.channel.calls ++ [c]⟩ }, now + asked.1.delay⟩
    have turn : run q now w =
        put.andThen fun later s => (receiving asked.1).finish q later s := run_of_connected q on
    rw [turn]
    cases loss : c.isLoss with
    | false =>
      have well : Run.GoesWell w [c] put := ⟨rfl, by simpa using loss⟩
      have received := wellOrBroken_receiving q put.time put.station asked.1
      exact well.andThen_wellOrBroken (received.mono fun _ => .inr)
    | true =>
      have notes : Client.Notes w.channel.channel asked.2 c :=
        Client.notes_query q now w.channel.channel
      cases came : asked.1.result with
      | ok payload => simp [c, Ended.ofReply, Ended.isLoss, Ended.loss?, Reply.failure?, came] at loss
      | error f =>
        -- The turn ends with the query, at the moment since which the connection is lost.
        have failed : put.andThen (fun later s => (receiving asked.1).finish q later s) =
            put.andThen fun later s =>
              ⟨.stamped later (asked.1.notices.map .notice ++ shownOnFailure q), s, later⟩ := by
          simp only [Run.andThen, finish_receiving_of_error q _ _ came]
        rw [failed]
        refine .inr ⟨[], c, [], asked.1.notices, ?_, .inl rfl⟩
        refine ⟨rfl, by simp, loss, ?_, notes.isConnected_stop loss⟩
        cases q <;> simp [c, put, Run.andThen, Ended.ofReply, shownOnFailure, Outgoing.effect]

section Skipped

variable {now : Nat} {w : Station (Recorded Client)}
  (off : w.channel.channel.isConnected now = false)

include off

/-- When the daemon counts as disconnected, a turn is skipped: the question whether it is connected
changes nothing. -/
theorem run_of_lost (q : Query) : run q now w = ⟨[], w, now⟩ := run_of_disconnected q off

theorem runAll_of_lost (qs : List Query) : runAll qs now w = ⟨[], w, now⟩ := by
  induction qs with
  | nil => rfl
  | cons q qs ih =>
    rw [runAll, run_of_lost off, Run.andThen, ih]
    rfl

end Skipped

/-- Turns in a row go well, or break off and all turns that are left are skipped. -/
theorem wellOrBroken_runAll (qs : List Query) (now : Nat) (w : Station (Recorded Client)) :
    Run.WellOrBroken (fun _ => True) w (runAll qs now w) := by
  induction qs generalizing now w with
  | nil => exact .inl ⟨[], .of_same rfl⟩
  | cons q qs ih =>
    rcases wellOrBroken_run q now w with
      ⟨calls, well⟩ | ⟨calls, e, given, notices, broken, _⟩
    · exact well.andThen_wellOrBroken (ih _ _)
    · have rest := runAll_of_lost broken.off qs
      exact .inr ⟨calls, e, given, notices, broken.andThen rest, trivial⟩

end Turn

/-- A tick goes well, or breaks off; and if it breaks off with another call than the query for the
errors, it shows no error list. -/
theorem Tick.wellOrBroken_run (now : Nat) (w : Station (Recorded Client)) :
    Run.WellOrBroken (fun call => call ≠ .query .errors →
      (run now w).history.effects.filterMap Effect.errors? = []) w (run now w) := by
  rw [run_eq_andThen_errors]
  have others : .errors ∉ Query.errors.earlier := by decide
  rcases Turn.wellOrBroken_runAll Query.errors.earlier now w with
    ⟨calls, well⟩ | ⟨calls, e, given, notices, broken, _⟩
  · refine well.andThen_wellOrBroken ((Turn.wellOrBroken_run .errors _ _).mono ?_)
    rintro call (errors | no)
    · exact fun other => absurd errors other
    · cases no
  · -- No time has passed, and the errors are not asked for.
    have skipped := Turn.run_of_lost broken.off .errors
    refine .inr ⟨calls, e, given, notices, broken.andThen skipped, ?_⟩
    intro _
    have nothing := Turn.errors?_runAll others now w
    rw [Run.andThen, skipped, List.append_nil, nothing]

/-! ## Back-off -/

/-- **Back-off.**  Over the client, whatever the network does and however long anything takes: after
a call that failed in transport, and as long as no call ends otherwise, no query is sent for two
seconds.  And in every tick a call that fails in transport is the last one: of what comes behind it
nothing has an effect, except that the query for the errors clears the error list when it is the one
that fails; with any other such call the tick shows no error list at all. -/
theorem back_off (ls : List Lull) (now : Nat) (s : Station Client) :
    let ticks := Tick.begun ls now s
    (∀ before f q, before ++ [f] <+: ticks.flatMap BegunTick.calls → f.call = .query q →
      ∀ e, Ended.LostSince before e → e.stop + Client.reconnectDelay ≤ f.start) ∧
    ∀ b ∈ ticks, b.calls.map Ended.sent = b.run.history.sent ∧
      ∀ before e behind, b.calls = before ++ e :: behind → e.isLoss →
        behind = [] ∧ (∀ c ∈ before, c.isLoss = false) ∧
        (∃ (given : List Output) (notices : List Notice), b.run.history.outputs =
          given ++ .effect e.call.effect :: notices.map .notice ++
            if e.call = .query .errors then [.effect (.errors [])] else []) ∧
        (e.call ≠ .query .errors → b.run.history.effects.filterMap Effect.errors? = []) := by
  intro ticks
  constructor
  · have all := Tick.calls_session ls now s.recorded
    have kept := Tick.keeps_session Recorded.BacksOff.keeps ls now s.recorded
      (Recorded.BacksOff.of_nil now s.channel)
    have calls : (Tick.session ls now s.recorded).station.channel.calls =
        ticks.flatMap BegunTick.calls := all
    rw [← calls]
    exact kept.apart
  · intro b _
    refine ⟨b.sent_calls, ?_⟩
    intro before e behind split loss
    have history : b.recordedRun.history = b.run.history := congrArg Run.history b.map_recordedRun
    rcases Tick.wellOrBroken_run b.start b.station.recorded with
      ⟨calls, well⟩ | ⟨calls, c, given, notices, broken, quiet⟩
    · have all : b.calls = calls := well.record
      have fine := well.fine e (by simp [← all, split])
      rw [loss] at fine
      cases fine
    · have all : b.calls = calls ++ [c] := broken.record
      rw [all] at split
      rcases Ended.concat_eq_append_cons split with ⟨rfl, rfl, rfl⟩ | ⟨rest, _, earlier⟩
      · refine ⟨rfl, broken.fine, ⟨given, notices, ?_⟩, ?_⟩
        · rw [← history]
          exact broken.outputs
        · rw [← history]
          exact quiet
      · have fine := broken.fine e (by simp [earlier])
        rw [loss] at fine
        cases fine

/-- The query for events is refused at 105, the tick after that sends nothing, and the one at 2605
is the first that tries again. -/
theorem back_off_refused :
    let s : Station Client := { channel := { network := [⟨.refused, 5⟩] } }
    let ticks := Tick.begun [.idle 100, .idle 1000, .idle 1500] 0 s
    let e : Ended := ⟨.query .events, 100, 105, some (.http .refused),
      [.connectionLost Query.events.method (.http .refused)]⟩
    let f : Ended := ⟨.query .events, 2605, 2605, some (.http .closed), []⟩
    ticks.map BegunTick.calls = [[e], [], [f]] ∧
      e.stop + Client.reconnectDelay ≤ f.start ∧
      ∃ b ∈ ticks, b.calls = [e] ∧ b.run.history.effects.filterMap Effect.errors? = [] := by
  intro s ticks e f
  obtain ⟨apart, broken⟩ := back_off [.idle 100, .idle 1000, .idle 1500] 0 s
  have calls : ticks.map BegunTick.calls = [[e], [], [f]] := by decide
  have all : ticks.flatMap BegunTick.calls = [e, f] := by
    rw [List.flatMap_def, calls]
    rfl
  have sent : [e] ++ [f] <+: ticks.flatMap BegunTick.calls := by
    rw [all]
    exact List.prefix_refl _
  have lost : Ended.LostSince [e] e := ⟨[], [], rfl, rfl, by simp⟩
  let b : BegunTick Client := ⟨100, s⟩
  have mem : b ∈ ticks := List.mem_cons_self
  have mine : b.calls = [e] := by decide
  obtain ⟨_, breaks⟩ := broken b mem
  obtain ⟨_, _, _, quiet⟩ := breaks [] e [] mine rfl
  exact ⟨calls, apart [e] f .events sent rfl e lost, b, mem, mine, quiet (by decide)⟩

end DaemonWatch
