/-
  Ticks in turn, and what surrounds them.

  A session is any number of ticks, each of which begins some time after the one before has ended,
  on the station which that one has left.

  1. **Lulls** (`Lull`): in what comes before a tick everything may change but the channel and the
     memo: the settings, the accounts, the link commands, the user's answers and the clock.

  2. **Ticks begun.**  A tick is the turns of all queries (`Tick.run_eq_runAll`), so a session is
     known by the ticks begun (`Tick.begun`, `Tick.history_session`), and a tick by the turns begun
     in it (`BegunTick.turn`).

  3. **What is kept** (`Channel.Keeps`): something that holds of a channel at a time, goes on to
     hold while time passes, and is kept by every call.  The one thing that is known of a call is
     that a query is put only when the daemon counts as connected.  The steps of errands, turns and
     ticks keep it (`Errand.keeps_step`, `Turn.keeps_step`, `Tick.keeps_step`), as beyond the calls
     they leave the channel alone (`Turn.channel_accept`); so it is kept by a whole session
     (`Tick.keeps_session`).
-/
import DaemonWatch.Proofs.ChannelView

namespace DaemonWatch

variable {σ σ' τ : Type}

/-! ## Lulls -/

/-- What surrounds a station besides the daemon: what its user, its file system and its clock may
change while it waits.  The memo is not part of it, nor is the channel. -/
structure Surroundings where
  preferences : Preferences
  book : AccountBook
  links : Option (List (Action → Reply Unit))
  answers : List (Timed Bool)
  clock : Int

/-- What comes before a tick: for how long nothing happens, and what becomes of the surroundings. -/
structure Lull where
  wait : Nat
  change : Surroundings → Surroundings

/-- A lull in which nothing changes. -/
def Lull.idle (wait : Nat) : Lull := ⟨wait, id⟩

namespace Station

/-- What surrounds the station. -/
def surroundings (s : Station σ) : Surroundings :=
  ⟨s.preferences, s.book, s.links, s.answers, s.clock⟩

/-- The station after a lull. -/
def after (s : Station σ) (l : Lull) : Station σ :=
  let w := l.change s.surroundings
  { s with
    preferences := w.preferences, book := w.book, links := w.links, answers := w.answers
    clock := w.clock }

@[simp] theorem after_idle (s : Station σ) (wait : Nat) : s.after (.idle wait) = s := rfl

end Station

/-! ## Turns in a row -/

/-- The queries that come before one in a tick. -/
def Query.earlier (q : Query) : List Query := all.takeWhile (· ≠ q)

/-- The turns of some queries, one after the other. -/
def Turn.runAll [Channel σ] : List Query → Nat → Station σ → Run σ
  | [], now, s => ⟨[], s, now⟩
  | q :: qs, now, s => (run q now s).andThen (runAll qs)

theorem Turn.runAll_append [Channel σ] (qs ps : List Query) (now : Nat) (s : Station σ) :
    runAll (qs ++ ps) now s = (runAll qs now s).andThen (runAll ps) := by
  induction qs generalizing now s with
  | nil => simp only [List.nil_append, runAll, Run.andThen]
  | cons q qs ih =>
    have rest : runAll (qs ++ ps) = fun now s => (runAll (σ := σ) qs now s).andThen (runAll ps) := by
      funext now s
      exact ih now s
    simp only [List.cons_append, runAll, rest, Run.andThen_assoc]

@[simp] theorem Turn.runAll_singleton [Channel σ] (q : Query) (now : Nat) (s : Station σ) :
    runAll [q] now s = run q now s := Run.andThen_nil _

/-- A tick is the turns of all queries. -/
theorem Tick.run_eq_runAll [Channel σ] (now : Nat) (s : Station σ) :
    run now s = Turn.runAll Query.all now s := by
  rw [run_eq]
  simp only [Query.all, Turn.runAll, Run.andThen_nil]

/-- A tick is the turns of the other queries and then that of the errors. -/
theorem Tick.run_eq_andThen_errors [Channel σ] (now : Nat) (s : Station σ) :
    run now s = (Turn.runAll Query.errors.earlier now s).andThen (Turn.run .errors) := by
  have split : Query.all = Query.errors.earlier ++ [.errors] := rfl
  rw [run_eq_runAll, split, Turn.runAll_append]
  congr 1
  funext now s
  exact Turn.runAll_singleton .errors now s

/-- A turn that has been begun: whose it was, when it began and on which station. -/
structure BegunTurn (σ : Type) where
  query : Query
  start : Nat
  station : Station σ

namespace BegunTurn

variable [Channel σ]

/-- What the turn has come to. -/
def run (t : BegunTurn σ) : Run σ := Turn.run t.query t.start t.station

/-- Whether the daemon counted as connected when the turn began. -/
def isConnected (t : BegunTurn σ) : Bool := (Channel.connected t.start t.station.channel).1

/-- The reply to the query, if it was put to the daemon. -/
def reply (t : BegunTurn σ) : Reply Json :=
  (Channel.query t.query t.start (Channel.connected t.start t.station.channel).2).1

end BegunTurn

/-! ## Sessions -/

/-- A tick that has been begun: when it began and on which station. -/
structure BegunTick (σ : Type) where
  start : Nat
  station : Station σ

namespace BegunTick

variable [Channel σ]

/-- What the tick has come to. -/
def run (b : BegunTick σ) : Run σ := Tick.run b.start b.station

/-- The turn of a query in the tick. -/
def turn (b : BegunTick σ) (q : Query) : BegunTurn σ :=
  let before := Turn.runAll q.earlier b.start b.station
  ⟨q, before.time, before.station⟩

end BegunTick

namespace Tick

variable [Channel σ]

/-- The ticks of a session: one after each lull. -/
def begun : List Lull → Nat → Station σ → List (BegunTick σ)
  | [], _, _ => []
  | l :: ls, now, s =>
    let tick := run (now + l.wait) (s.after l)
    ⟨now + l.wait, s.after l⟩ :: begun ls tick.time tick.station

/-- A session: ticks in turn, each after a lull. -/
def session : List Lull → Nat → Station σ → Run σ
  | [], now, s => ⟨[], s, now⟩
  | l :: ls, now, s => (run (now + l.wait) (s.after l)).andThen (session ls)

/-- What a session gives off is what its ticks give off. -/
theorem history_session (ls : List Lull) (now : Nat) (s : Station σ) :
    (session ls now s).history = (begun ls now s).flatMap fun b => b.run.history := by
  induction ls generalizing now s with
  | nil => rfl
  | cons l ls ih =>
    simp only [session, begun, Run.andThen, List.flatMap_cons, ih]
    rfl

end Tick

/-! ## What is kept -/

/-- When that comes for which a step waits. -/
def Step.time (now : Nat) (step : Step σ τ) : Nat :=
  match step.next with
  | none => now
  | some (delay, _) => now + delay

/-- What every step keeps is kept by the work. -/
theorem runFor_keeps (holds : Nat → Station σ → Prop) {step : Nat → Station σ → τ → Step σ τ}
    (keeps : ∀ now s t, holds now s → holds ((step now s t).time now) (step now s t).station)
    (n now : Nat) (s : Station σ) (t : τ) (here : holds now s) :
    holds (runFor step n now s t).time (runFor step n now s t).station := by
  induction n generalizing now s t with
  | zero => exact here
  | succ n ih =>
    have there := keeps now s t here
    simp only [runFor]
    cases next : (step now s t).next with
    | none =>
      rw [Step.time, next] at there
      exact there
    | some more =>
      rw [Step.time, next] at there
      exact ih _ _ _ there

/-- To begin what is left to do takes from the user's answers or the outcomes of link commands, and
changes nothing else. -/
theorem FollowUp.station_begin (s : Station σ) (f : FollowUp) :
    ∃ links answers, (f.begin s).station = { s with links := links, answers := answers } := by
  cases f with
  | askUser id text question =>
    simp only [begin, Station.takeAnswer]
    split <;> exact ⟨_, _, rfl⟩
  | runLink request =>
    simp only [begin, Station.takeLinkOutcome]
    split
    · split <;> exact ⟨_, _, rfl⟩
    · exact ⟨_, _, rfl⟩

/-- To take a payload changes nothing but the memo, the user's answers and the outcomes of link
commands. -/
theorem Turn.station_accept (q : Query) (s : Station σ) (payload : Json) :
    ∃ links answers memo, (accept q s payload).station =
      { s with links := links, answers := answers, memo := memo } := by
  simp only [accept, Event.begin_eq]
  split
  next => exact ⟨_, _, _, rfl⟩
  next e _ =>
    split
    next => exact ⟨_, _, _, rfl⟩
    next u _ =>
      obtain ⟨links, answers, same⟩ := u.station_begin (s.remembering e)
      exact ⟨links, answers, _, same⟩

/-- To take a payload is no call of the channel. -/
@[simp] theorem Turn.channel_accept (q : Query) (s : Station σ) (payload : Json) :
    (accept q s payload).station.channel = s.channel := by
  obtain ⟨_, _, _, same⟩ := station_accept q s payload
  rw [same]

/-- That what holds of a channel at some time goes on to hold while time passes, and is kept by
every call; a query is only put when the daemon counts as connected. -/
structure Channel.Keeps [Channel σ] (holds : Nat → σ → Prop) : Prop where
  wait : ∀ {now later c}, now ≤ later → holds now c → holds later c
  connected : ∀ {now c}, holds now c → holds now (Channel.connected now c).2
  query : ∀ (q : Query) {now c}, (Channel.connected now c).1 = true → holds now c →
    let asked := Channel.query q now (Channel.connected now c).2
    holds (now + asked.1.delay) asked.2
  confirm : ∀ (id : String) (cancelled : Bool) {now c}, holds now c →
    let told := Channel.confirm id cancelled now c
    holds (now + told.1.delay) told.2

section Keeps

variable [Channel σ] {holds : Nat → σ → Prop} (keeps : Channel.Keeps holds)

include keeps

/-- Waiting for what comes next keeps what holds. -/
theorem Channel.Keeps.time {now : Nat} (step : Step σ τ) (here : holds now step.station.channel) :
    holds (step.time now) step.station.channel := by
  unfold Step.time
  split
  · exact here
  · exact keeps.wait (Nat.le_add_right _ _) here

theorem Errand.keeps_step (now : Nat) (s : Station σ) (e : Errand) (here : holds now s.channel) :
    holds ((e.step now s).time now) (e.step now s).station.channel := by
  cases e with
  | asking id confirmed => exact keeps.confirm id (!confirmed) here
  | reporting | linking => exact here

theorem Turn.keeps_step (q : Query) (now : Nat) (s : Station σ) (t : Turn)
    (here : holds now s.channel) :
    holds ((t.step q now s).time now) (t.step q now s).station.channel := by
  cases t with
  | ready =>
    by_cases on : (Channel.connected now s.channel).1 = true
    · have asked := keeps.query q on here
      simp only [step, on, if_true, Step.time]
      exact asked
    · have asked := keeps.connected here
      simp only [step, on, Step.time]
      exact asked
  | receiving reply =>
    have same : ((receiving reply).step q now s).station.channel = s.channel := by
      simp only [step]
      split
      · rfl
      · exact channel_accept q s _
    refine keeps.time _ ?_
    rw [same]
    exact here
  | running e =>
    have same : ((running e).step q now s).time now = (e.step now s).time now := by
      simp only [Step.time, step]
      cases (e.step now s).next <;> rfl
    rw [same]
    exact e.keeps_step keeps now s here

theorem Tick.keeps_step (now : Nat) (s : Station σ) (t : Tick) (here : holds now s.channel) :
    holds ((t.step now s).time now) (t.step now s).station.channel := by
  -- The next turn begins at once.
  have same : (t.step now s).time now = (t.turn.step t.query now s).time now := by
    simp only [Step.time, step]
    cases (t.turn.step t.query now s).next with
    | some n => rfl
    | none => cases t.query.next? <;> rfl
  rw [same]
  exact t.turn.keeps_step keeps t.query now s here

/-- What the calls of the channel keep is kept by a tick. -/
theorem Tick.keeps_run (now : Nat) (s : Station σ) (here : holds now s.channel) :
    holds (run now s).time (run now s).station.channel := by
  rw [← finish_start]
  exact runFor_keeps (fun now s => holds now s.channel) (keeps_step keeps) _ _ _ _ here

/-- **What the calls of the channel keep is kept by a whole session.**  Nothing else that a station
does touches the channel, so such a property needs no look at events or turns. -/
theorem Tick.keeps_session (ls : List Lull) (now : Nat) (s : Station σ)
    (here : holds now s.channel) :
    holds (session ls now s).time (session ls now s).station.channel := by
  induction ls generalizing now s with
  | nil => exact here
  | cons l ls ih =>
    have begun : holds (now + l.wait) (s.after l).channel := keeps.wait (Nat.le_add_right _ _) here
    exact ih _ _ (keeps_run keeps _ _ begun)

end Keeps

end DaemonWatch
