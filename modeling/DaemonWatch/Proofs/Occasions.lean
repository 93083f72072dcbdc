/-
  What happens to a station.

  A station polls, payloads come to it by themselves, and meanwhile time passes and its surroundings
  change.  These are its occasions, and a session is any number of them in turn (`Session.run`).

  1. **Arrivals** (`Arrival`): a payload that a station takes, when, and on which station.  Whether
     it was polled or came by itself makes no difference.  Apart from its arrival a turn only puts
     its query, and clears the error list if that could not be had (`BegunTurn.run_of_arrival`,
     `BegunTurn.run_of_no_arrival`).

  2. **What a session does besides** putting queries and clearing the error list is therefore what
     its arrivals do, in their order (`Session.filterMap_effects`).  Whoever looks for one kind of
     effect in a session needs to know only what a single arrival comes to.

  3. **The crux (`Run.Alike`)**: on two stations some work has had the same effects, and afterwards
     they differ in the channel alone.  It is composed along with the work (`Run.Alike.andThen`).
     An event is handled alike whatever the channels do (`Event.handle_alike`), because how a report
     ends is only logged; and a turn goes alike when the stations are told the same
     (`Turn.run_alike`).

  4. **Result** (`Session.run_alike`): the effects of a session are decided by what the station is
     told, whether the daemon counts as connected and what it replies to the queries.
-/
import DaemonWatch.Proofs.Handling
import DaemonWatch.Proofs.Session
import DaemonWatch.Proofs.TickShape

namespace DaemonWatch

variable {σ σ' : Type}

/-! ## Arrivals -/

/-- A payload that a station takes as the reply to a query: when, and on which station.  It may have
come as a reply to that query, or by itself. -/
structure Arrival (σ : Type) where
  query : Query
  payload : Json
  start : Nat
  station : Station σ

/-- What the arrival has come to. -/
def Arrival.run [Channel σ] (a : Arrival σ) : Run σ :=
  Event.deliver a.query a.payload a.start a.station

/-- The type of the payload. -/
def Arrival.kind (a : Arrival σ) : String := Payload.text a.payload "type"

/-- The station without its channel. -/
def Station.alone (s : Station σ) : Station Unit := s.seen fun _ => ()

/-- A reply with a payload is logged, the payload is delivered, and then at most something is
logged. -/
theorem Turn.finish_receiving_of_payload [Channel σ] (q : Query) (now : Nat) (s : Station σ)
    {reply : Reply Json} {payload : Json} (came : reply.result = .ok payload) :
    ∃ ns : List Notice, (receiving reply).finish q now s =
      (⟨.stamped now (reply.notices.map .notice), s, now⟩ : Run σ).andThen fun now s =>
        (Event.deliver q payload now s).andThen fun now s =>
          ⟨.stamped now (ns.map .notice), s, now⟩ := by
  rcases Event.decode_cases s.clock q payload with
    ⟨notices, message, -, decoded⟩ | ⟨notices, e, -, decoded⟩
  · refine ⟨[.undecodable q message], ?_⟩
    rw [finish_receiving_of_undecodable q now s came decoded]
    simp [Event.deliver, decoded, Run.andThen, History.stamped]
  · refine ⟨[], ?_⟩
    rw [finish_receiving_of_event q now s came decoded]
    simp [Event.deliver, decoded, Run.andThen, History.stamped]

namespace BegunTurn

variable [Channel σ]

/-- The station once the query is put to the daemon. -/
def asking (t : BegunTurn σ) : Station σ :=
  { t.station with
    channel := (Channel.query t.query t.start (Channel.connected t.start t.station.channel).2).2 }

/-- What the station is told in the turn: that the daemon does not count as connected, or the
payload of the reply, or that the query has failed. -/
def heard (t : BegunTurn σ) : Option (Option Json) :=
  if t.isConnected then some t.reply.result.toOption else none

/-- The payload that the station takes in the turn, if the daemon replies with one. -/
def arrival? (t : BegunTurn σ) : Option (Arrival σ) :=
  t.heard.join.map fun payload => ⟨t.query, payload, t.start + t.reply.delay, t.asking⟩

/-- What a turn comes to when the query is put. -/
theorem run_of_isConnected {t : BegunTurn σ} (on : t.isConnected = true) :
    t.run =
      (⟨.stamped t.start [.effect (.query t.query)], t.asking, t.start + t.reply.delay⟩ :
        Run σ).andThen fun later s => (Turn.receiving t.reply).finish t.query later s :=
  Turn.run_of_connected t.query on

/-- In a turn without an arrival nothing has an effect but the query, if it is put, and what is
shown on failure. -/
theorem run_of_no_arrival {t : BegunTurn σ} (idle : t.arrival? = none) :
    t.run.history.effects =
        (if t.heard.isSome then .query t.query :: Output.effects (Turn.shownOnFailure t.query)
          else []) ∧
      t.run.station.alone = t.station.alone := by
  cases on : t.isConnected with
  | false =>
    rw [run, Turn.run_of_disconnected t.query on, heard, on]
    exact ⟨rfl, rfl⟩
  | true =>
    rw [run_of_isConnected on, heard, on]
    cases came : t.reply.result with
    | ok payload => simp [arrival?, heard, on, came, Except.toOption] at idle
    | error f =>
      simp only [Run.andThen, Turn.finish_receiving_of_error t.query _ _ came,
        History.effects_append, History.effects_stamped, Output.effects_append,
        Output.effects_notices]
      exact ⟨rfl, rfl⟩

/-- In a turn with an arrival the query is put, and nothing else has an effect outside the arrival;
it begins on a station that differs in the channel alone, and the turn ends with it. -/
theorem run_of_arrival {t : BegunTurn σ} {a : Arrival σ} (arrived : t.arrival? = some a) :
    ∃ before after : History, t.run.history = before ++ (a.run.history ++ after) ∧
      before.effects = [.query t.query] ∧ after.effects = [] ∧
      a.station.alone = t.station.alone ∧ t.run.station = a.run.station := by
  simp only [arrival?, Option.map_eq_some_iff, Option.join_eq_some_iff, heard,
    Option.ite_none_right_eq_some, Option.some.injEq] at arrived
  obtain ⟨payload, ⟨on, told⟩, rfl⟩ := arrived
  have came : t.reply.result = .ok payload := by
    cases result : t.reply.result with
    | error f => rw [result] at told; cases told
    | ok p => rw [result] at told; cases told; rfl
  obtain ⟨ns, finished⟩ :=
    Turn.finish_receiving_of_payload t.query (t.start + t.reply.delay) t.asking came
  let a : Arrival σ := ⟨t.query, payload, t.start + t.reply.delay, t.asking⟩
  refine ⟨.stamped t.start [.effect (.query t.query)] ++
    .stamped a.start (t.reply.notices.map .notice), .stamped a.run.time (ns.map .notice),
    ?_, ?_, ?_, rfl, ?_⟩
  · rw [run_of_isConnected on, Run.andThen, finished, List.append_assoc]
    rfl
  · simp only [History.effects_append, History.effects_stamped, Output.effects_notices]
    rfl
  · rw [History.effects_stamped, Output.effects_notices]
  · rw [run_of_isConnected on, Run.andThen, finished]
    rfl

end BegunTurn

/-! ## Stations that are told the same -/

/-- That on two stations some work has had the same effects, and that they differ in the channel
alone after it. -/
structure Run.Alike (run : Run σ) (run' : Run σ') : Prop where
  effects : run.history.effects = run'.history.effects
  station : run.station.alone = run'.station.alone

theorem Run.Alike.andThen {run : Run σ} {run' : Run σ'} {more : Nat → Station σ → Run σ}
    {more' : Nat → Station σ' → Run σ'} (first : Alike run run')
    (rest : Alike (more run.time run.station) (more' run'.time run'.station)) :
    Alike (run.andThen more) (run'.andThen more') := by
  refine ⟨?_, rest.station⟩
  simp only [Run.andThen, History.effects_append, first.effects, rest.effects]

/-- The effects of an errand. -/
def Errand.effects : Errand → List Effect
  | asking id confirmed => [.confirmation id !confirmed]
  | reporting .. | linking .. => []

/-- An errand has its effects whatever the channel does, and leaves everything else alone. -/
theorem Errand.alone_runFor [Channel σ] (now : Nat) (s : Station σ) (e : Errand) :
    (runFor step e.rank now s e).history.effects = e.effects ∧
      (runFor step e.rank now s e).station.alone = s.alone := by
  cases e with
  | asking id confirmed =>
    refine ⟨?_, rfl⟩
    simp only [runFor, rank, step, History.effects_append, History.effects_stamped,
      Output.effects_notices]
    rfl
  | reporting | linking =>
    refine ⟨?_, rfl⟩
    simp only [runFor, rank, step, History.effects_stamped, Output.effects_notices]
    rfl

section Alike

variable [Channel σ] [Channel σ']

/-- An event is handled alike on stations that differ in the channel alone. -/
theorem Event.handle_alike (now now' : Nat) {s : Station σ} {s' : Station σ'}
    (alone : s.alone = s'.alone) (e : Event) :
    (e.handle now s).Alike (e.handle now' s') := by
  have same : (e.begin s).map Station.alone = (e.begin s').map Station.alone := by
    have begun := begin_seen (fun _ : σ => ()) s e
    have begun' := begin_seen (fun _ : σ' => ()) s' e
    exact begun.trans ((congrArg e.begin alone).trans begun'.symm)
  simp only [Step.map, Step.mk.injEq] at same
  obtain ⟨outputs, station, next⟩ := same
  simp only [handle, outputs, next]
  cases (e.begin s').next with
  | none =>
    refine ⟨?_, station⟩
    simp only [History.effects_stamped]
  | some n =>
    obtain ⟨effects, rest⟩ := n.2.alone_runFor (now + n.1) (e.begin s).station
    obtain ⟨effects', rest'⟩ := n.2.alone_runFor (now' + n.1) (e.begin s').station
    constructor
    · simp only [History.effects_append, History.effects_stamped, effects, effects']
    · rw [rest, rest', station]

/-- A payload is delivered alike on stations that differ in the channel alone. -/
theorem Event.deliver_alike (q : Query) (payload : Json) (now now' : Nat) {s : Station σ}
    {s' : Station σ'} (alone : s.alone = s'.alone) :
    (deliver q payload now s).Alike (deliver q payload now' s') := by
  have clock : s.clock = s'.clock := congrArg Station.clock alone
  simp only [deliver, clock]
  have first : ∀ notices : List Notice,
      Run.Alike ⟨.stamped now (notices.map .notice), s, now⟩
        ⟨.stamped now' (notices.map .notice), s', now'⟩ := by
    intro notices
    refine ⟨?_, alone⟩
    simp only [History.effects_stamped]
  split
  · exact first _
  · exact (first _).andThen (handle_alike now now' alone _)

/-- Turns of a query go alike when they begin on stations that differ in the channel alone, and
these are told the same. -/
theorem Turn.run_alike (q : Query) (now now' : Nat) {s : Station σ} {s' : Station σ'}
    (alone : s.alone = s'.alone)
    (heard : (⟨q, now, s⟩ : BegunTurn σ).heard = (⟨q, now', s'⟩ : BegunTurn σ').heard) :
    (Turn.run q now s).Alike (Turn.run q now' s') := by
  let t : BegunTurn σ := ⟨q, now, s⟩
  let t' : BegunTurn σ' := ⟨q, now', s'⟩
  show t.run.Alike t'.run
  cases told : t.heard.join with
  | none =>
    have idle : t.arrival? = none := Option.map_eq_none_iff.mpr told
    have idle' : t'.arrival? = none := Option.map_eq_none_iff.mpr (heard ▸ told)
    obtain ⟨effects, station⟩ := BegunTurn.run_of_no_arrival idle
    obtain ⟨effects', station'⟩ := BegunTurn.run_of_no_arrival idle'
    constructor
    · rw [effects, effects', show t.heard = t'.heard from heard]
    · rw [station, station']
      exact alone
  | some payload =>
    let a : Arrival σ := ⟨q, payload, now + t.reply.delay, t.asking⟩
    let a' : Arrival σ' := ⟨q, payload, now' + t'.reply.delay, t'.asking⟩
    have arrived : t.arrival? = some a := Option.map_eq_some_iff.mpr ⟨payload, told, rfl⟩
    have arrived' : t'.arrival? = some a' :=
      Option.map_eq_some_iff.mpr ⟨payload, heard ▸ told, rfl⟩
    have same : a.run.Alike a'.run := Event.deliver_alike q payload a.start a'.start alone
    obtain ⟨before, after, history, put, quiet, -, station⟩ := BegunTurn.run_of_arrival arrived
    obtain ⟨before', after', history', put', quiet', -, station'⟩ := BegunTurn.run_of_arrival arrived'
    constructor
    · simp only [history, history', History.effects_append, put, put', quiet, quiet', same.effects]
      rfl
    · rw [station, station', same.station]

end Alike

/-! ## Sessions -/

/-- The station after a lull in which the user's answers to come stay the same. -/
def Station.meanwhile (s : Station σ) (l : Lull) : Station σ :=
  { s.after l with answers := s.answers }

/-- The turns of some queries, one after the other, as they begin. -/
def Turn.begunAll [Channel σ] : List Query → Nat → Station σ → List (BegunTurn σ)
  | [], _, _ => []
  | q :: qs, now, s => ⟨q, now, s⟩ :: begunAll qs (run q now s).time (run q now s).station

/-- What happens to a station: time passes and its surroundings change, it polls, or a payload comes
to it by itself.  A session is any list of these. -/
inductive Occasion
  | lull (l : Lull)
  | poll
  | arrival (q : Query) (payload : Json)

namespace Occasion

variable [Channel σ]

/-- What an occasion comes to. -/
def run (now : Nat) (s : Station σ) : Occasion → Run σ
  | lull l => ⟨[], s.meanwhile l, now + l.wait⟩
  | poll => Tick.run now s
  | arrival q payload => Event.deliver q payload now s

/-- The turns of an occasion. -/
def turns (now : Nat) (s : Station σ) : Occasion → List (BegunTurn σ)
  | poll => Turn.begunAll Query.all now s
  | lull _ | arrival .. => []

/-- The payloads that arrive upon an occasion. -/
def arrivals (now : Nat) (s : Station σ) : Occasion → List (Arrival σ)
  | lull _ => []
  | poll => (Turn.begunAll Query.all now s).filterMap BegunTurn.arrival?
  | arrival q payload => [⟨q, payload, now, s⟩]

end Occasion

namespace Session

variable [Channel σ]

/-- What occasions in turn come to. -/
def run : List Occasion → Nat → Station σ → Run σ
  | [], now, s => ⟨[], s, now⟩
  | o :: os, now, s => (o.run now s).andThen (run os)

/-- What there is of some kind upon occasions in turn. -/
def gather {α : Type} (each : Nat → Station σ → Occasion → List α) :
    List Occasion → Nat → Station σ → List α
  | [], _, _ => []
  | o :: os, now, s => each now s o ++ gather each os (o.run now s).time (o.run now s).station

/-- The turns of a session. -/
def turns (os : List Occasion) (now : Nat) (s : Station σ) : List (BegunTurn σ) :=
  gather Occasion.turns os now s

/-- The payloads that arrive in a session, in their order. -/
def arrivals (os : List Occasion) (now : Nat) (s : Station σ) : List (Arrival σ) :=
  gather Occasion.arrivals os now s

end Session

/-! ### Sessions in which the same is told -/

section Alike

variable [Channel σ] [Channel σ']

theorem Turn.runAll_alike (qs : List Query) (now now' : Nat) {s : Station σ} {s' : Station σ'}
    (alone : s.alone = s'.alone)
    (heard : (begunAll qs now s).map BegunTurn.heard = (begunAll qs now' s').map BegunTurn.heard) :
    (runAll qs now s).Alike (runAll qs now' s') := by
  induction qs generalizing now now' s s' with
  | nil => exact ⟨rfl, alone⟩
  | cons q qs ih =>
    simp only [begunAll, List.map_cons, List.cons.injEq] at heard
    have first := run_alike q now now' alone heard.1
    exact first.andThen (ih _ _ first.station heard.2)

theorem Occasion.run_alike (o : Occasion) (now now' : Nat) {s : Station σ} {s' : Station σ'}
    (alone : s.alone = s'.alone)
    (heard : (o.turns now s).map BegunTurn.heard = (o.turns now' s').map BegunTurn.heard) :
    (o.run now s).Alike (o.run now' s') := by
  cases o with
  | lull l => exact ⟨rfl, congrArg (Station.meanwhile · l) alone⟩
  | poll =>
    simp only [run, Tick.run_eq_runAll]
    exact Turn.runAll_alike _ now now' alone heard
  | arrival q payload => exact Event.deliver_alike q payload now now' alone

theorem Turn.length_begunAll (qs : List Query) (now : Nat) (s : Station σ) :
    (begunAll qs now s).length = qs.length := by
  induction qs generalizing now s with
  | nil => rfl
  | cons q qs ih => simp only [begunAll, List.length_cons, ih]

/-- Which turns an occasion has does not depend on the station. -/
theorem Occasion.length_turns (o : Occasion) (now now' : Nat) (s : Station σ) (s' : Station σ') :
    (o.turns now s).length = (o.turns now' s').length := by
  cases o with
  | poll => simp only [turns, Turn.length_begunAll]
  | lull | arrival => rfl

/-- **A session is decided by what the station is told** about the daemon and by it: on stations
that differ in the channel alone it has the same effects as long as they are told the same.  How the
reports of the user's answers end has no say in it. -/
theorem Session.run_alike (os : List Occasion) (now now' : Nat) {s : Station σ} {s' : Station σ'}
    (alone : s.alone = s'.alone)
    (heard : (turns os now s).map BegunTurn.heard = (turns os now' s').map BegunTurn.heard) :
    (run os now s).Alike (run os now' s') := by
  induction os generalizing now now' s s' with
  | nil => exact ⟨rfl, alone⟩
  | cons o os ih =>
    -- An occasion has as many turns on one station as on the other, so what is told falls into what
    -- is told upon it and what is told later.
    simp only [turns, gather, List.map_append] at heard
    have length : ((o.turns now s).map BegunTurn.heard).length =
        ((o.turns now' s').map BegunTurn.heard).length := by
      simp only [List.length_map, o.length_turns now now' s s']
    obtain ⟨here, later⟩ := List.append_inj heard length
    have first := o.run_alike now now' alone here
    exact first.andThen (ih _ _ first.station later)

end Alike

/-! ### What arrivals bring -/

section Brought

variable [Channel σ] {α : Type} {pick : Effect → Option α} (query : ∀ q, pick (.query q) = none)
  (cleared : pick (.errors []) = none)

include query cleared

/-- What is picked of a turn, leaving out queries and empty error lists, is picked
of its arrival. -/
theorem BegunTurn.filterMap_effects (t : BegunTurn σ) :
    t.run.history.effects.filterMap pick =
      ([t].filterMap arrival?).flatMap fun a => a.run.history.effects.filterMap pick := by
  rcases arrived : t.arrival? with _ | a
  · obtain ⟨effects, -⟩ := run_of_no_arrival arrived
    rw [List.filterMap_cons_none arrived, effects]
    rcases t.heard with _ | payload
    · rfl
    · rcases t.query with _ | _ | _ | _ <;>
        simp [Turn.shownOnFailure, Output.effects, Output.effect?, query, cleared]
  · obtain ⟨before, after, history, put, quiet, -, -⟩ := run_of_arrival arrived
    rw [List.filterMap_cons_some arrived, history, History.effects_append, History.effects_append,
      put, quiet]
    simp [query]

theorem Turn.filterMap_effects_runAll (qs : List Query) (now : Nat) (s : Station σ) :
    (runAll qs now s).history.effects.filterMap pick =
      ((begunAll qs now s).filterMap BegunTurn.arrival?).flatMap fun a =>
        a.run.history.effects.filterMap pick := by
  induction qs generalizing now s with
  | nil => rfl
  | cons q qs ih =>
    have first := BegunTurn.filterMap_effects query cleared ⟨q, now, s⟩
    rw [runAll, Run.andThen, History.effects_append, List.filterMap_append, ih, begunAll,
      ← List.singleton_append, List.filterMap_append, List.flatMap_append, ← first]
    rfl

/-- **Whatever a session does besides putting queries and clearing the error list**, its arrivals
do, in their order. -/
theorem Session.filterMap_effects (os : List Occasion) (now : Nat) (s : Station σ) :
    (run os now s).history.effects.filterMap pick =
      (arrivals os now s).flatMap fun a => a.run.history.effects.filterMap pick := by
  induction os generalizing now s with
  | nil => rfl
  | cons o os ih =>
    have first : (o.run now s).history.effects.filterMap pick =
        (o.arrivals now s).flatMap fun a => a.run.history.effects.filterMap pick := by
      rcases o with lull | _ | ⟨q, payload⟩
      · rfl
      · rw [Occasion.run, Tick.run_eq_runAll]
        exact Turn.filterMap_effects_runAll query cleared Query.all now s
      · exact (List.append_nil _).symm
    rw [arrivals, gather, List.flatMap_append, ← first, run, Run.andThen, History.effects_append,
      List.filterMap_append, ih]
    rfl

end Brought

end DaemonWatch
