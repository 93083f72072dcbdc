/-
  The turns of one query do not depend on what the daemon replies to another.

  This is said of a daemon that plays from a script: of two sessions in which nothing differs but
  what is replied to one query, and when, the turns of every other query give off the same.

  1. **What is a query's own** (`Station.apartFrom`): the replies to it, and what only its turns
     use.  That is the memo for events; for notifications it is the user's answers, the reports of
     them and the link commands.

  2. **The other turns do not look at it.**  The turn of another query comes to the same with that
     part and without it (`Turn.run_apartFrom`).  This is shown as for a channel that is seen as
     another: the steps of errands, events and turns do not see the difference.

  3. **Its own turns change nothing else** (`Turn.apartFrom_run`), except that every turn takes a
     word on whether the daemon is connected, as do all the others.

  4. **The crux (`Turn.station_run_alike`)**: two stations that are alike apart from one query's
     part stay alike through every turn, by 2 when the turn is another query's and by 3 when it is
     that query's own.  So they do through ticks and sessions (`Tick.session_alike`), and by 2 the
     other turns give off the same all along (`queries_independent`).
-/
import DaemonWatch.Proofs.Polling
import DaemonWatch.Proofs.Session
import DaemonWatch.Proofs.TickShape

namespace DaemonWatch

/-! ## What is a query's own -/

namespace Rehearsal

/-- The script without what only the turns of a query take from it. -/
def without (k : Query) (r : Rehearsal) : Rehearsal :=
  { r.withQueue k [] with reports := if k = .notification then [] else r.reports }

theorem takeConnected_without (k : Query) (r : Rehearsal) :
    (r.without k).takeConnected = (r.takeConnected.1, r.takeConnected.2.without k) := by
  cases k <;> cases answers : r.connections <;>
    simp [without, withQueue, takeConnected, answers]

/-- The other queries have their replies still. -/
theorem queue_without {k q : Query} (other : q ≠ k) (r : Rehearsal) :
    (r.without k).queue q = r.queue q := by
  cases k <;> cases q <;> first | rfl | exact absurd rfl other

theorem without_withQueue_of_ne {k q : Query} (other : q ≠ k) (r : Rehearsal)
    (replies : List (Timed (Except Failure Json))) :
    (r.withQueue q replies).without k = (r.without k).withQueue q replies := by
  cases k <;> cases q <;> first | rfl | exact absurd rfl other

/-- The replies to a query are its own. -/
theorem without_withQueue (k : Query) (r : Rehearsal)
    (replies : List (Timed (Except Failure Json))) :
    (r.withQueue k replies).without k = r.without k := by
  cases k <;> rfl

theorem takeReply_without {k q : Query} (other : q ≠ k) (r : Rehearsal) :
    (r.without k).takeReply q = ((r.takeReply q).1, (r.takeReply q).2.without k) := by
  simp only [takeReply, queue_without other]
  cases r.queue q with
  | nil => rfl
  | cons reply rest => simp only [without_withQueue_of_ne other]

theorem takeReport_without {k : Query} (other : k ≠ .notification) (r : Rehearsal) :
    (r.without k).takeReport = (r.takeReport.1, r.takeReport.2.without k) := by
  have same : (r.without k).reports = r.reports := by simp [without, other]
  simp only [takeReport, same]
  split <;> cases k <;> first | rfl | exact absurd rfl other

theorem without_takeReply (k : Query) (r : Rehearsal) :
    (r.takeReply k).2.without k = r.without k := by
  unfold takeReply
  split
  · rfl
  · exact without_withQueue k r _

/-- The reports of the user's answers belong to notifications. -/
theorem without_takeReport (r : Rehearsal) :
    r.takeReport.2.without .notification = r.without .notification := by
  unfold takeReport
  split <;> rfl

end Rehearsal

/-- The station without what is a query's own. -/
def Station.apartFrom (k : Query) (s : Station Rehearsal) : Station Rehearsal :=
  { s with
    channel := s.channel.without k
    links := if k = .notification then none else s.links
    answers := if k = .notification then [] else s.answers
    memo := if k = .events then {} else s.memo }

/-! ## The turns of the other queries -/

section Others

variable {k q : Query}

/-- The memo belongs to events. -/
theorem Event.remember_apartFrom {e : Event} (other : e.query ≠ k) (s : Station Rehearsal) :
    (s.remembering e).apartFrom k = (s.apartFrom k).remembering e := by
  cases e with
  | drive e =>
    have kept : k ≠ .events := fun same => other same.symm
    simp [Station.apartFrom, Station.remembering, kept]
  | notification | status | errors => rfl

theorem FollowUp.begin_apartFrom (other : k ≠ .notification) (s : Station Rehearsal)
    (f : FollowUp) : (f.begin s).map (Station.apartFrom k) = f.begin (s.apartFrom k) := by
  have answers : (s.apartFrom k).answers = s.answers := if_neg other
  have links : (s.apartFrom k).links = s.links := if_neg other
  cases f with
  | askUser id text question =>
    simp only [begin, Station.takeAnswer, answers]
    cases given : s.answers <;> simp [Step.map, Station.apartFrom, other, given]
  | runLink request =>
    have account : (s.apartFrom k).accountFor? request = s.accountFor? request := rfl
    simp only [begin, Station.takeLinkOutcome, links, account]
    split
    next outcomes _ given _ => cases outcomes <;> simp [Step.map, Station.apartFrom, other, given]
    next => rfl

theorem Errand.step_apartFrom (other : k ≠ .notification) (now : Nat) (s : Station Rehearsal)
    (errand : Errand) :
    (errand.step now s).map (Station.apartFrom k) = errand.step now (s.apartFrom k) := by
  cases errand with
  | asking id confirmed =>
    have told : Channel.confirm id (!confirmed) now (s.apartFrom k).channel = _ :=
      Rehearsal.takeReport_without other s.channel
    simp only [step, Step.map, told]
    rfl
  | reporting | linking => rfl

/-- An event is handled alike whatever is another query's own. -/
theorem Event.handle_apartFrom {e : Event} (other : e.query ≠ k) (now : Nat)
    (s : Station Rehearsal) :
    (e.handle now s).map (Station.apartFrom k) = e.handle now (s.apartFrom k) := by
  by_cases here : k = .notification
  · subst here
    -- Without the answers and the link commands an errand would not go on as it does.
    rw [handle_of_ne other, handle_of_ne other, Run.map, remember_apartFrom other]
    rfl
  · have begins := begin_map s e rfl (remember_apartFrom other s) (FollowUp.begin_apartFrom here)
    exact handle_map now s e begins (Errand.step_apartFrom here)

namespace Turn

theorem finish_receiving_apartFrom (other : q ≠ k) (now : Nat) (s : Station Rehearsal)
    (reply : Reply Json) :
    ((receiving reply).finish q now s).map (Station.apartFrom k) =
      (receiving reply).finish q now (s.apartFrom k) := by
  cases came : reply.result with
  | error f =>
    rw [finish_receiving_of_error q now s came, finish_receiving_of_error q now _ came]
    rfl
  | ok payload =>
    rcases Event.decode_cases s.clock q payload with
      ⟨notices, message, _, decoded⟩ | ⟨notices, e, rfl, decoded⟩
    · rw [finish_receiving_of_undecodable q now s came decoded,
        finish_receiving_of_undecodable q now (s.apartFrom k) came decoded]
      rfl
    · rw [finish_receiving_of_event e.query now s came decoded,
        finish_receiving_of_event e.query now (s.apartFrom k) came decoded]
      exact Run.map_andThen (e.handle_apartFrom other) _

/-- The turn of a query comes to the same whatever is another query's own. -/
theorem run_apartFrom (other : q ≠ k) (now : Nat) (s : Station Rehearsal) :
    (run q now s).map (Station.apartFrom k) = run q now (s.apartFrom k) := by
  have asked : Channel.connected now (s.apartFrom k).channel = _ :=
    Rehearsal.takeConnected_without k s.channel
  have put : Channel.query q now (s.channel.takeConnected.2.without k) = _ :=
    Rehearsal.takeReply_without other s.channel.takeConnected.2
  cases on : (Channel.connected now s.channel).1 with
  | false =>
    have off : (Channel.connected now (s.apartFrom k).channel).1 = false := by
      rw [asked]
      exact on
    rw [run_of_disconnected q on, run_of_disconnected q off, asked]
    rfl
  | true =>
    have on' : (Channel.connected now (s.apartFrom k).channel).1 = true := by
      rw [asked]
      exact on
    rw [run_of_connected q on, run_of_connected q on', asked, put]
    exact Run.map_andThen (fun later s' => finish_receiving_apartFrom other later s' _) _

end Turn

end Others

/-! ## The turns of the query itself -/

section Own

variable {k : Query}

theorem FollowUp.apartFrom_begin (s : Station Rehearsal) (f : FollowUp) :
    (f.begin s).station.apartFrom .notification = s.apartFrom .notification := by
  obtain ⟨_, _, same⟩ := f.station_begin s
  rw [same]
  rfl

theorem Errand.apartFrom_step (now : Nat) (s : Station Rehearsal) (errand : Errand) :
    (errand.step now s).station.apartFrom .notification = s.apartFrom .notification := by
  cases errand with
  | asking id confirmed =>
    have told := Rehearsal.without_takeReport s.channel
    show Station.apartFrom .notification { s with channel := s.channel.takeReport.2 } = _
    simp only [Station.apartFrom, told]
  | reporting | linking => rfl

theorem Notification.apartFrom_handle (n : Notification) (now : Nat) (s : Station Rehearsal) :
    ((Event.notification n).handle now s).station.apartFrom .notification =
      s.apartFrom .notification := by
  rcases n.react_cases s.preferences with ⟨outputs, reacts, _⟩ | ⟨f, reacts⟩
  · have at_once : ((Event.notification n).handle now s).station = s := by
      simp only [Event.handle, Event.begin, Event.react, reacts]
      rfl
    rw [at_once]
  · have first : (f.begin s).station.apartFrom .notification = s.apartFrom .notification :=
      f.apartFrom_begin s
    rw [Event.handle_of_followUp now (e := .notification n) reacts]
    simp only [Event.remember]
    split
    next => exact first
    next delay errand _ =>
      -- Every step of the errand changes nothing but what belongs to notifications.
      refine runFor_keeps (fun _ there => there.apartFrom .notification = s.apartFrom .notification)
        ?_ errand.rank (now + delay) _ errand first
      intro now there errand same
      rw [errand.apartFrom_step, same]

/-- Handling an event changes nothing but what is its query's own. -/
theorem Event.apartFrom_handle {e : Event} (now : Nat) (s : Station Rehearsal) :
    (e.handle now s).station.apartFrom e.query = s.apartFrom e.query := by
  cases e with
  | notification n => exact n.apartFrom_handle now s
  | drive | status | errors =>
    rw [handle_of_ne (by simp [query])]
    rfl

namespace Turn

theorem apartFrom_finish_receiving (k : Query) (now : Nat) (s : Station Rehearsal)
    (reply : Reply Json) :
    ((receiving reply).finish k now s).station.apartFrom k = s.apartFrom k := by
  cases came : reply.result with
  | error f => rw [finish_receiving_of_error k now s came]
  | ok payload =>
    rcases Event.decode_cases s.clock k payload with
      ⟨notices, message, _, decoded⟩ | ⟨notices, e, rfl, decoded⟩
    · rw [finish_receiving_of_undecodable k now s came decoded]
    · rw [finish_receiving_of_event e.query now s came decoded]
      exact e.apartFrom_handle now s

/-- The turn of a query changes nothing but what is its own, and takes a word on whether the daemon
is connected. -/
theorem apartFrom_run (k : Query) (now : Nat) (s : Station Rehearsal) :
    (run k now s).station.apartFrom k =
      { s.apartFrom k with channel := (s.apartFrom k).channel.takeConnected.2 } := by
  have asked : (s.channel.without k).takeConnected.2 = s.channel.takeConnected.2.without k := by
    rw [Rehearsal.takeConnected_without]
  cases on : (Channel.connected now s.channel).1 with
  | false =>
    rw [run_of_disconnected k on]
    simp only [Station.apartFrom, asked]
    rfl
  | true =>
    have put := Rehearsal.without_takeReply k s.channel.takeConnected.2
    rw [run_of_connected k on, Run.andThen, apartFrom_finish_receiving]
    simp only [Station.apartFrom, asked, ← put]
    rfl

end Turn

end Own

/-! ## Two runs -/

section Two

variable {k : Query} {s s' : Station Rehearsal}

/-- At any time the turn of a query gives off the same. -/
theorem Turn.run_timeless (q : Query) (now now' : Nat) (s : Station Rehearsal) :
    (run q now s).history.outputs = (run q now' s).history.outputs ∧
      (run q now s).station = (run q now' s).station :=
  runFor_timeless (step_timeless q) _ _ _ _ _

/-- On stations that are alike apart from a query's part the turn of another gives off the same. -/
theorem Turn.outputs_run_alike {q : Query} (other : q ≠ k)
    (alike : s.apartFrom k = s'.apartFrom k) (now now' : Nat) :
    (run q now s).history.outputs = (run q now' s').history.outputs := by
  have here := congrArg (·.history.outputs) (run_apartFrom other now s)
  have there := congrArg (·.history.outputs) (run_apartFrom other now' s')
  have same := (run_timeless q now now' (s.apartFrom k)).1
  rw [← alike] at there
  exact here.trans (same.trans there.symm)

/-- Stations that are alike apart from a query's part stay so through every turn. -/
theorem Turn.station_run_alike (alike : s.apartFrom k = s'.apartFrom k) (q : Query)
    (now now' : Nat) :
    (run q now s).station.apartFrom k = (run q now' s').station.apartFrom k := by
  by_cases own : q = k
  · subst own
    rw [apartFrom_run, apartFrom_run, alike]
  · have here := congrArg Run.station (run_apartFrom own now s)
    have there := congrArg Run.station (run_apartFrom own now' s')
    have same := (run_timeless q now now' (s.apartFrom k)).2
    rw [← alike] at there
    exact here.trans (same.trans there.symm)

theorem Turn.station_runAll_alike (alike : s.apartFrom k = s'.apartFrom k) (qs : List Query)
    (now now' : Nat) :
    (runAll qs now s).station.apartFrom k = (runAll qs now' s').station.apartFrom k := by
  induction qs generalizing now now' s s' with
  | nil => exact alike
  | cons q qs ih => exact ih (station_run_alike alike q now now') _ _

theorem Tick.station_run_alike (alike : s.apartFrom k = s'.apartFrom k) (now now' : Nat) :
    (run now s).station.apartFrom k = (run now' s').station.apartFrom k := by
  rw [run_eq_runAll, run_eq_runAll]
  exact Turn.station_runAll_alike alike Query.all now now'

/-- What the turns of a query give off in a session, tick by tick. -/
def Tick.outputsOf {σ : Type} [Channel σ] (q : Query) (ls : List Lull) (now : Nat)
    (s : Station σ) : List (List Output) :=
  (begun ls now s).map fun b => (b.turn q).run.history.outputs

/-- Through idle lulls stations that are alike apart from a query's part stay so, and the turns of
the other queries give off the same. -/
theorem Tick.session_alike {waits waits' : List Nat} (many : waits'.length = waits.length)
    (alike : s.apartFrom k = s'.apartFrom k) (now now' : Nat) :
    (∀ q ≠ k, outputsOf q (waits.map .idle) now s = outputsOf q (waits'.map .idle) now' s') ∧
      (session (waits.map .idle) now s).station.apartFrom k =
        (session (waits'.map .idle) now' s').station.apartFrom k := by
  induction waits generalizing waits' now now' s s' with
  | nil =>
    rw [List.eq_nil_of_length_eq_zero many]
    exact ⟨fun _ _ => rfl, alike⟩
  | cons wait waits ih =>
    cases waits' with
    | nil => cases many
    | cons wait' waits' =>
      have tick := station_run_alike alike (now + wait) (now' + wait')
      obtain ⟨outputs, station⟩ := ih (Nat.succ.inj many) tick _ _
      refine ⟨?_, station⟩
      intro q other
      -- The turns before that of the query leave the stations alike.
      have before := Turn.station_runAll_alike alike q.earlier (now + wait) (now' + wait')
      have turn := Turn.outputs_run_alike other before
        (Turn.runAll q.earlier (now + wait) s).time (Turn.runAll q.earlier (now' + wait') s').time
      have rest := outputs q other
      simp only [outputsOf, List.map_cons, begun, Station.after_idle] at rest ⊢
      exact List.cons_eq_cons.mpr ⟨turn, rest⟩

end Two

/-- **Queries are independent.**  Of two sessions over daemons that play from a script, in which
nothing differs but what is replied to one query, and when, the turns of every other query give
off the same in every tick: effects, notices and signals.  The memo that is left is the same too,
unless the query is that for events. -/
theorem queries_independent (k : Query) (s : Station Rehearsal)
    (replies : List (Timed (Except Failure Json))) {waits waits' : List Nat}
    (many : waits'.length = waits.length) (now now' : Nat) :
    let s' := { s with channel := s.channel.withQueue k replies }
    (∀ q ≠ k, Tick.outputsOf q (waits.map .idle) now s =
      Tick.outputsOf q (waits'.map .idle) now' s') ∧
    (k ≠ .events → (Tick.session (waits.map .idle) now s).station.memo =
      (Tick.session (waits'.map .idle) now' s').station.memo) := by
  intro s'
  have alike : s.apartFrom k = s'.apartFrom k := by
    simp only [Station.apartFrom, s', Rehearsal.without_withQueue]
  obtain ⟨outputs, station⟩ := Tick.session_alike many alike now now'
  refine ⟨outputs, ?_⟩
  intro other
  have memo := congrArg Station.memo station
  simp only [Station.apartFrom, if_neg other] at memo
  exact memo

/-- In place of a failure a question about a deletion, which is reported late: events and errors are
the same in both ticks. -/
theorem queries_independent_question : ∃ (s : Station Rehearsal)
    (replies : List (Timed (Except Failure Json))),
    let s' := { s with channel := s.channel.withQueue .notification replies }
    Tick.outputsOf .notification ([10, 10].map .idle) 0 s =
      [[.effect (.query .notification)], [.effect (.query .notification)]] ∧
    Tick.outputsOf .notification ([10, 25].map .idle) 5 s' =
      [[.effect (.query .notification),
        .effect (.prompt (Wording.deleteRepoText "r") (Wording.deleteRepoQuestion "r")),
        .effect (.confirmation "c" true)], [.effect (.query .notification)]] ∧
    Tick.outputsOf .events ([10, 10].map .idle) 0 s =
      Tick.outputsOf .events ([10, 25].map .idle) 5 s' ∧
    Tick.outputsOf .errors ([10, 10].map .idle) 0 s =
      Tick.outputsOf .errors ([10, 25].map .idle) 5 s' ∧
    (Tick.session ([10, 10].map .idle) 0 s).station.memo =
      (Tick.session ([10, 25].map .idle) 5 s').station.memo := by
  let s : Station Rehearsal :=
    { channel :=
        { events := [⟨.ok (.ofMembers [("type", .text "t"), ("path", .text "p")]), 3⟩]
          notification := [⟨.error (.http .timedOut), 90⟩]
          errors := [⟨.ok (.array []), 0⟩] }
      answers := [⟨false, 700⟩] }
  let replies : List (Timed (Except Failure Json)) :=
    [⟨.ok (.ofMembers [("type", .text "del_repo_confirmation"),
      ("confirmation_id", .text "c"), ("repo_name", .text "r")]), 0⟩]
  have many : [10, 25].length = [10, 10].length := rfl
  obtain ⟨outputs, memo⟩ := queries_independent .notification s replies many 0 5
  refine ⟨s, replies, by decide, by decide, ?_, ?_, ?_⟩
  · exact outputs .events (by decide)
  · exact outputs .errors (by decide)
  · exact memo (by decide)

end DaemonWatch
