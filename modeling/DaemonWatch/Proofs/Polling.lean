/-
  A loop does nothing but poll.

  The loop is made of moves, between which commands come, time passes and the handle is given up.
  Its effects do not show any of that: they are those of as many whole ticks as it has started, each
  on the station that the one before has left.

  1. **Specification** (`Tick.runAll`): whole ticks in turn.  `Polls` relates a loop to them, for
     whoever reads the effects with a `reader`: what the loop has given off is the beginning of what
     the ticks give off, outside a tick it is all of that, and in a tick it becomes so when nothing
     more happens than that time passes and the tick goes on.

  2. **Whom the time makes no difference to** (`Indifferent`).  A tick that goes on later than it
     might gives off the same to those who do not look at the times, if the answers of the channel
     do not depend on them (`indifferent_of_timeless`); and a punctual loop never goes on later
     (`indifferent_of_punctual`).  These are the two halves of the result, and the rest of the
     argument is the same for both.

  3. **The crux (`Follows`)**: the effects so far, followed by those of what is left of the tick
     under way, are the effects of the ticks started.  A happening outside a tick adds nothing to
     either (`Follows.step_outside`), the start of a tick adds one tick of which all is left
     (`Follows.step_start`), and going on moves the first step of what is left over to what has been
     given off (`Follows.step_ticking`).  `Follows.course` is the induction.

  4. **Bridge** (`Follows.polls`): a loop that follows its ticks has done them and nothing else, as
     it can always come to the end of the tick it is in (`course_rest`).
-/
import DaemonWatch.Proofs.Course
import DaemonWatch.Proofs.TickSteps
import DaemonWatch.Rehearsal

namespace DaemonWatch

variable {σ τ β : Type}

/-! ## Answers that do not depend on the time -/

/-- A channel whose answers depend on what it was asked before, and not on when. -/
class Channel.Timeless (σ : Type) [Channel σ] : Prop where
  connected_eq : ∀ (now now' : Nat) (c : σ), Channel.connected now c = Channel.connected now' c
  query_eq : ∀ (q : Query) (now now' : Nat) (c : σ),
    Channel.query q now c = Channel.query q now' c
  confirm_eq : ∀ (id : String) (cancelled : Bool) (now now' : Nat) (c : σ),
    Channel.confirm id cancelled now c = Channel.confirm id cancelled now' c

instance : Channel.Timeless Rehearsal where
  connected_eq _ _ _ := rfl
  query_eq _ _ _ _ := rfl
  confirm_eq _ _ _ _ _ := rfl

/-- Steps that do not depend on the time come to the same at any time. -/
theorem runFor_timeless {step : Nat → Station σ → τ → Step σ τ}
    (same : ∀ now now' s t, step now s t = step now' s t) (n now now' : Nat) (s : Station σ)
    (t : τ) :
    (runFor step n now s t).history.outputs = (runFor step n now' s t).history.outputs ∧
      (runFor step n now s t).station = (runFor step n now' s t).station := by
  induction n generalizing now now' s t with
  | zero => exact ⟨rfl, rfl⟩
  | succ n ih =>
    simp only [runFor]
    rw [same now' now]
    cases (step now s t).next with
    | none => simp
    | some next =>
      obtain ⟨outputs, station⟩ := ih (now + next.1) (now' + next.1) (step now s t).station next.2
      refine ⟨?_, station⟩
      simp only [History.outputs_append, History.outputs_stamped, outputs]

section Timeless

variable [Channel σ] [Channel.Timeless σ]

open Channel.Timeless

theorem Errand.step_timeless (now now' : Nat) (s : Station σ) (e : Errand) :
    e.step now s = e.step now' s := by
  cases e with
  | asking id confirmed =>
    simp only [step]
    rw [confirm_eq id (!confirmed) now now']
  | reporting | linking => rfl

theorem Turn.step_timeless (q : Query) (now now' : Nat) (s : Station σ) (t : Turn) :
    t.step q now s = t.step q now' s := by
  cases t with
  | ready =>
    simp only [step]
    rw [connected_eq now now', query_eq q now now']
  | receiving reply => rfl
  | running e =>
    simp only [step]
    rw [e.step_timeless now now']

theorem Tick.step_timeless (now now' : Nat) (s : Station σ) (t : Tick) :
    t.step now s = t.step now' s := by
  unfold step
  rw [t.turn.step_timeless t.query now now']

/-- What is left of a tick gives off the same at any time. -/
theorem Tick.finish_timeless (now now' : Nat) (s : Station σ) (t : Tick) :
    (t.finish now s).history.outputs = (t.finish now' s).history.outputs ∧
      (t.finish now s).station = (t.finish now' s).station :=
  runFor_timeless step_timeless _ _ _ _ _

end Timeless

/-! ## Ticks in turn -/

namespace Tick

variable [Channel σ]

/-- One more tick, which begins at a time of its own. -/
def again (done : Run σ) (start : Nat) : Run σ :=
  let tick := run start done.station
  ⟨done.history ++ tick.history, tick.station, tick.time⟩

/-- Whole ticks in turn, which begin at the given times, each on the station that the one before has
left. -/
def runAll (s : Station σ) (starts : List Nat) : Run σ := starts.foldl again ⟨[], s, 0⟩

@[simp] theorem runAll_append_singleton (s : Station σ) (starts : List Nat) (start : Nat) :
    runAll s (starts ++ [start]) = again (runAll s starts) start := by
  simp only [runAll, List.foldl_append, List.foldl_cons, List.foldl_nil]

/-- Over a timeless channel ticks in turn give off the same at any times. -/
theorem outputs_runAll [Channel.Timeless σ] (s : Station σ) {starts times : List Nat}
    (many : times.length = starts.length) :
    (runAll s times).history.outputs = (runAll s starts).history.outputs := by
  -- Of what the ticks so far have come to, only the outputs and the station matter.
  suffices general : ∀ (done done' : Run σ), done.history.outputs = done'.history.outputs →
      done.station = done'.station →
      (times.foldl again done).history.outputs = (starts.foldl again done').history.outputs from
    general _ _ rfl rfl
  induction times generalizing starts with
  | nil =>
    intro done done' outputs _
    rw [List.eq_nil_of_length_eq_zero many.symm]
    exact outputs
  | cons t times ih =>
    intro done done' outputs station
    cases starts with
    | nil => cases many
    | cons u starts =>
      obtain ⟨given, left⟩ := finish_timeless t u done'.station start
      rw [finish_start, finish_start] at given left
      refine ih (Nat.succ.inj many) _ _ ?_ ?_
      · simp only [again, History.outputs_append, outputs, station, given]
      · simp only [again, station, left]

end Tick

/-! ## Readers -/

namespace History

/-- The effects as a reader takes them, who looks at the times, at the effects or at both. -/
def read (reader : Nat × Effect → β) (h : History) : List β := h.timedEffects.map reader

@[simp] theorem read_nil (reader : Nat × Effect → β) : read reader [] = [] := rfl

@[simp] theorem read_append (reader : Nat × Effect → β) (h h' : History) :
    read reader (h ++ h') = h.read reader ++ h'.read reader := by
  rw [read, timedEffects_append, List.map_append]
  rfl

/-- Those who do not look at the times read the effects. -/
theorem read_snd (h : History) : h.read (·.2) = h.effects := h.map_timedEffects

end History

/-! ## The rest of a tick -/

namespace Chronicle

/-- That nothing happens but that time passes and that a tick goes on, or ends. -/
def IsRest (hs : Chronicle) : Prop :=
  ∀ h ∈ hs.kinds, h = .passed ∨ h = .tickWentOn ∨ h = .tickEnded

namespace IsRest

variable {hs ks : Chronicle}

theorem append (first : hs.IsRest) (more : ks.IsRest) : IsRest (hs ++ ks) := by
  rw [IsRest, kinds_append]
  exact List.forall_mem_append.mpr ⟨first, more⟩

theorem fixed (quiet : hs.IsRest) : .adjusted ∉ hs.kinds := by
  intro mem
  simpa using quiet _ mem

theorem starts (quiet : hs.IsRest) : hs.starts = [] := by
  rw [starts_eq_nil_iff]
  intro mem
  simpa using quiet _ mem

end IsRest

end Chronicle

namespace PollLoop

variable [Channel σ] {pace : Pace σ} {reader : Nat × Effect → β} {l l' : PollLoop σ}
  {h : Happening} {hs : Chronicle} {s : Station σ} {starts : List Nat}

/-! ## The loop and its ticks -/

/-- What is left of the tick that a loop is in. -/
def rest (l : PollLoop σ) : Run σ :=
  match l.phase with
  | .ticking wake tick => tick.finish wake l.station
  | _ => ⟨[], l.station, l.now⟩

theorem rest_of_ticking {wake : Nat} {tick : Tick} (phase : l.phase = .ticking wake tick) :
    l.rest = tick.finish wake l.station := by
  simp only [rest, phase]

theorem rest_of_not_isTicking (outside : l.isTicking = false) :
    l.rest = ⟨[], l.station, l.now⟩ := by
  cases phase : l.phase with
  | ticking => simp [isTicking, phase] at outside
  | between | ended => simp only [rest, phase]

/-- That, to a reader, it makes no difference whether a loop goes on with its tick now or at the
time for which it has waited. -/
def Indifferent (reader : Nat × Effect → β) (l : PollLoop σ) : Prop :=
  ∀ wake tick, l.phase = .ticking wake tick → wake ≤ l.now →
    (tick.finish wake l.station).history.read reader =
        (tick.finish l.now l.station).history.read reader ∧
      (tick.finish wake l.station).station = (tick.finish l.now l.station).station

/-- Over a timeless channel it makes no difference to those who do not look at the time. -/
theorem indifferent_of_timeless [Channel.Timeless σ] (l : PollLoop σ) :
    Indifferent (·.2) l := by
  intro wake tick _ _
  obtain ⟨outputs, station⟩ := tick.finish_timeless wake l.now l.station
  refine ⟨?_, station⟩
  rw [History.read_snd, History.read_snd, History.effects, History.effects, outputs]

/-- That a loop in a tick is not past the moment for which it waits. -/
def IsOnTime (l : PollLoop σ) : Prop :=
  ∀ wake tick, l.phase = .ticking wake tick → l.now ≤ wake

/-- Nothing makes a punctual loop late. -/
theorem IsOnTime.step (early : l.IsOnTime) (step : Occurs punctual l h l') : l'.IsOnTime := by
  intro wake tick phase
  cases step with
  | @move m made =>
    cases m with
    | take c =>
      have between : l.phase = .between := (of_move? made).1
      by_cases last : c = .shutdown <;> simp [perform, take, record, last, between] at phase
    | finish => cases phase
    | startTick =>
      cases phase
      exact Nat.le_refl _
    | goOn tick' =>
      simp only [perform, goOn] at phase ⊢
      split at phase
      next delay _ _ =>
        cases phase
        exact Nat.le_add_right l.now delay
      next => cases phase
  | accept | abandon | adjust => exact early wake tick phase
  | pass t may =>
    have same : l.phase = .ticking wake tick := phase
    have soon : t ≤ wake := may.2 wake (by simp [wake?, same])
    exact Nat.max_le.mpr ⟨early wake tick same, soon⟩

/-- A punctual loop goes on with its tick at no other time, so that it makes no difference to
anyone. -/
theorem indifferent_of_punctual {period : Nat} (period_pos : 0 < period) (s : Station σ)
    (reader : Nat × Effect → β) (run : Course punctual (start period period_pos s) hs l) :
    Indifferent reader l := by
  have first : (start period period_pos s).IsOnTime := by
    intro wake tick phase
    cases phase
  have onTime : l.IsOnTime := run.preserves IsOnTime IsOnTime.step first
  intro wake tick phase passed
  obtain rfl : wake = l.now := Nat.le_antisymm passed (onTime wake tick phase)
  exact ⟨rfl, rfl⟩

/-- That a loop follows the ticks begun at some times: to a reader its effects, and those of what is
left of the tick under way, are the effects of the ticks; and so is the station that is left. -/
structure Follows (reader : Nat × Effect → β) (s : Station σ) (starts : List Nat)
    (l : PollLoop σ) : Prop where
  effects : l.history.read reader ++ l.rest.history.read reader =
    (Tick.runAll s starts).history.read reader
  station : l.rest.station = (Tick.runAll s starts).station

/-- Outside a tick nothing is left, and a loop follows the ticks begun if it has
had their effects. -/
theorem follows_iff (outside : l.isTicking = false) :
    Follows reader s starts l ↔
      l.history.read reader = (Tick.runAll s starts).history.read reader ∧
        l.station = (Tick.runAll s starts).station := by
  have nothing := rest_of_not_isTicking outside
  constructor
  · rintro ⟨effects, station⟩
    rw [nothing] at effects station
    exact ⟨by simpa using effects, station⟩
  · rintro ⟨effects, station⟩
    constructor
    · rw [nothing, effects]
      exact List.append_nil _
    · rw [nothing, station]

/-- A loop that goes on with its tick does the first step of what is left of it. -/
theorem rest_goOn {wake : Nat} {tick : Tick} (phase : l.phase = .ticking wake tick)
    (passed : wake ≤ l.now) (alike : Indifferent reader l) :
    l.rest.history.read reader =
        History.read reader (.stamped l.now (tick.step l.now l.station).outputs) ++
          (l.goOn tick).rest.history.read reader ∧
      l.rest.station = (l.goOn tick).rest.station := by
  obtain ⟨effects, station⟩ := alike wake tick phase passed
  rw [rest_of_ticking phase, effects, station]
  cases next : (tick.step l.now l.station).next with
  | none =>
    have outside : (l.goOn tick).isTicking = false := by simp [isTicking, goOn, next]
    rw [Tick.finish_of_none next, rest_of_not_isTicking outside, History.read_nil, List.append_nil]
    exact ⟨rfl, rfl⟩
  | some n =>
    have ticking : (l.goOn tick).phase = .ticking (l.now + n.1) n.2 := by simp [goOn, next]
    rw [Tick.finish_of_some next, rest_of_ticking ticking, Run.andThen, History.read_append]
    exact ⟨rfl, rfl⟩

/-! ## One happening -/

/-- Outside a tick, what does not start one adds nothing. -/
theorem Follows.step_outside (here : Follows reader s starts l) (step : Occurs pace l h l')
    (outside : l.isTicking = false) (fixed : h ≠ .adjusted) (other : h ≠ .tickStarted) :
    Follows reader s starts l' := by
  have still := step.isTicking outside other
  rw [follows_iff outside] at here
  rw [follows_iff still, History.read, step.timedEffects outside, step.station outside fixed]
  exact here

/-- A tick that starts is one more tick, and all of it is left. -/
theorem Follows.step_start (here : Follows reader s starts l) (outside : l.isTicking = false) :
    Follows reader s (starts ++ [l.now]) l.startTick := by
  have left : l.startTick.rest = Tick.run l.now l.station := Tick.finish_start l.now l.station
  obtain ⟨effects, station⟩ := (follows_iff outside).mp here
  have history : l.startTick.history = l.history := rfl
  constructor
  · rw [left, history, effects, station, Tick.runAll_append_singleton, Tick.again,
      History.read_append]
  · rw [left, station, Tick.runAll_append_singleton, Tick.again]

/-- In a tick, the only move is to go on with it: what the step gives off is no longer left, and
stands at the end of the history instead.  As time passes nothing changes, and commands are not
taken. -/
theorem Follows.step_ticking (here : Follows reader s starts l) (step : Occurs pace l h l')
    (ticking : l.isTicking = true) (fixed : h ≠ .adjusted) (alike : Indifferent reader l) :
    Follows reader s starts l' := by
  obtain ⟨effects, station⟩ := here
  cases step with
  | @move m made =>
    have entry := of_move? made
    cases m with
    | take | finish | startTick => simp [isTicking, entry.1] at ticking
    | goOn tick =>
      obtain ⟨wake, phase, passed⟩ := entry
      obtain ⟨effects', station'⟩ := rest_goOn phase passed alike
      refine ⟨?_, station'.symm.trans station⟩
      -- What the step gives off moves from what is left to the history.
      show History.read reader (l.history ++ .stamped l.now _) ++
        (l.goOn tick).rest.history.read reader = _
      rw [← effects, effects', History.read_append, List.append_assoc]
  | accept | abandon => exact ⟨effects, station⟩
  | adjust => exact absurd rfl fixed
  | pass t may =>
    cases phase : l.phase with
    | between | ended => simp [isTicking, phase] at ticking
    | ticking wake tick =>
      have left : (l.moveTo t).rest = l.rest := by
        rw [rest_of_ticking phase]
        exact rest_of_ticking phase
      exact ⟨by rw [left]; exact effects, by rw [left]; exact station⟩

/-- Every happening keeps a loop to its ticks; only the start of one adds to them. -/
theorem Follows.step (here : Follows reader s starts l) (step : Occurs pace l h l')
    (fixed : h ≠ .adjusted) (alike : Indifferent reader l) :
    Follows reader s (starts ++ if h = .tickStarted then [l.now] else []) l' := by
  by_cases start : h = .tickStarted
  · subst start
    obtain ⟨made, rfl⟩ := move?_of_tickStarted step
    have outside : l.isTicking = false := by simp [isTicking, (of_move? made).1]
    rw [if_pos rfl]
    exact here.step_start outside
  · rw [if_neg start, List.append_nil]
    cases inside : l.isTicking with
    | true => exact here.step_ticking step inside fixed alike
    | false => exact here.step_outside step inside fixed start

/-- A loop follows the ticks that it has started. -/
theorem Follows.course (here : Follows reader s starts l) (run : Course pace l hs l')
    (fixed : .adjusted ∉ hs.kinds)
    (alike : ∀ {ks k}, Course pace l ks k → Indifferent reader k) :
    Follows reader s (starts ++ hs.starts) l' := by
  induction run generalizing starts with
  | nil =>
    rw [Chronicle.starts_nil, List.append_nil]
    exact here
  | cons first rest ih =>
    rw [Chronicle.kinds_cons, List.mem_cons, not_or] at fixed
    rw [Chronicle.starts_cons, ← List.append_assoc]
    exact ih (here.step first (Ne.symm fixed.1) (alike (.nil _))) fixed.2
      fun more => alike (.cons first more)

theorem follows_start {period : Nat} (period_pos : 0 < period) (s : Station σ) :
    Follows reader s [] (start period period_pos s) :=
  (follows_iff rfl).mpr ⟨rfl, rfl⟩

/-! ## The end of a tick -/

/-- That a loop goes on with its tick belongs to the rest of the tick. -/
theorem isRest_goOn (l : PollLoop σ) (tick : Tick) :
    Chronicle.IsRest [(l.now, l.tell (.goOn tick))] := by
  intro h mem
  rw [List.mem_singleton.mp mem, tell]
  split <;> simp

/-- A loop in a tick may wait until it goes on with it. -/
theorem course_goOn {wake : Nat} {tick : Tick} (phase : l.phase = .ticking wake tick) :
    ∃ ks woken, Course punctual l ks woken ∧ ks.IsRest ∧ woken.move? = some (.goOn tick) := by
  by_cases passed : wake ≤ l.now
  · exact ⟨[], l, .nil l, by simp [Chronicle.IsRest], by simp [move?, phase, passed]⟩
  · have waits : l.move? = none := by simp [move?, phase, passed]
    have wakes : l.wake? = some wake := by simp [wake?, phase]
    have wait : Occurs punctual l .passed (l.moveTo wake) :=
      .pass wake (punctual_of_wake waits wakes (Nat.le_refl _))
    have same : (l.moveTo wake).phase = .ticking wake tick := phase
    have later : wake ≤ (l.moveTo wake).now := Nat.le_max_right _ _
    exact ⟨_, _, .single wait, by simp [Chronicle.IsRest], by simp [move?, same, later]⟩

/-- A loop in a tick can come to the end of it with nothing but time passing and the
tick going on. -/
theorem course_rest {wake : Nat} {tick : Tick} (phase : l.phase = .ticking wake tick) :
    ∃ ks l', Course punctual l ks l' ∧ l'.isTicking = false ∧ ks.IsRest := by
  -- Along the steps that the tick still takes.
  induction size : tick.rank using Nat.strongRecOn generalizing l wake tick with
  | ind n ih =>
    subst size
    obtain ⟨ks, woken, waited, quiet, made⟩ := course_goOn phase
    have gone := waited.append (.single (.move made))
    have quietly := quiet.append (isRest_goOn woken tick)
    cases next : (tick.step woken.now woken.station).next with
    | none =>
      refine ⟨_, _, gone, ?_, quietly⟩
      simp [perform, isTicking, goOn, next]
    | some n =>
      have phase' : (woken.perform (.goOn tick)).phase = .ticking (woken.now + n.1) n.2 := by
        simp [perform, goOn, next]
      have less := Tick.rank_step woken.now woken.station tick n.2 n.1 next
      obtain ⟨ks', l', run, outside, quiet'⟩ := ih n.2.rank less phase' rfl
      exact ⟨_, l', gone.append run, outside, quietly.append quiet'⟩

/-- That to a reader a loop has done some ticks, and nothing else: its effects are the first of
theirs, outside a tick they are all of them, and in a tick they become so when the loop goes on
to the end of it, for which nothing more has to happen than that time passes. -/
structure Polls (reader : Nat × Effect → β) (l : PollLoop σ) (ticks : Run σ) : Prop where
  begun : l.history.read reader <+: ticks.history.read reader
  whole : l.isTicking = false → l.history.read reader = ticks.history.read reader
  goesOn : l.isTicking = true → ∃ ks l', Course punctual l ks l' ∧ l'.isTicking = false ∧
    ks.IsRest ∧ l'.history.read reader = ticks.history.read reader

/-- A loop that follows some ticks has done them, and nothing else. -/
theorem Follows.polls (here : Follows reader s starts l)
    (alike : ∀ {ks k}, Course punctual l ks k → Indifferent reader k) :
    Polls reader l (Tick.runAll s starts) := by
  refine ⟨⟨l.rest.history.read reader, here.effects⟩, ?_, ?_⟩
  · intro outside
    exact ((follows_iff outside).mp here).1
  · intro inside
    cases phase : l.phase with
    | between | ended => simp [isTicking, phase] at inside
    | ticking wake tick =>
      obtain ⟨ks, l', more, outside, quiet⟩ := course_rest phase
      have there := here.course more quiet.fixed alike
      rw [quiet.starts, List.append_nil, follows_iff outside] at there
      exact ⟨ks, l', more, outside, quiet, there.1⟩

/-! ## Loop and polling -/

/-- **A loop polls.**  As long as its surroundings stay as they are, a loop over a timeless channel
does as many ticks as it has started, whole and in turn, and nothing else, at whatever times the
ticks are begun; a punctual loop does so over every channel, and at the times at which the ticks
were started.  Commands are taken in the order in which they were accepted, all of them before
the loop sees its handle gone; and a loop that has taken a shutdown, or has seen its handle gone,
has no more effects and takes no more commands. -/
theorem loop_polls {period : Nat} (period_pos : 0 < period) (s : Station σ)
    (run : Course pace (start period period_pos s) hs l) (fixed : .adjusted ∉ hs.kinds) :
    (Channel.Timeless σ → ∀ times : List Nat, times.length = hs.starts.length →
      Polls (·.2) l (Tick.runAll s times)) ∧
    (Course punctual (start period period_pos s) hs l → Polls id l (Tick.runAll s hs.starts)) ∧
    hs.accepted = hs.taken ++ l.queue ∧
    (.finished ∈ hs.kinds → l.queue = []) ∧
    (.shutdown ∈ hs.taken ∨ .finished ∈ hs.kinds → l.isTicking = false ∧
      ∀ {ks l'}, Course pace l ks l' → l'.effects = l.effects ∧ ks.taken = []) := by
  refine ⟨?_, ?_, queue_course run, ?_, ?_⟩
  · intro _ times many
    have here := (follows_start period_pos s).course run fixed fun _ => indifferent_of_timeless _
    have polls := here.polls fun _ => indifferent_of_timeless _
    have same : (Tick.runAll s times).history.read (·.2) =
        (Tick.runAll s hs.starts).history.read (·.2) := by
      rw [History.read_snd, History.read_snd, History.effects, Tick.outputs_runAll s many]
      rfl
    exact ⟨same ▸ polls.begun, same ▸ polls.whole, same ▸ polls.goesOn⟩
  · intro punctually
    have here := (follows_start period_pos s).course punctually fixed
      fun more => indifferent_of_punctual period_pos s id more
    exact here.polls fun more => indifferent_of_punctual period_pos s id (punctually.append more)
  · exact fun gone => (hasEnded_of_finished_mem run gone).2
  · intro stopped
    have ended : l.hasEnded = true := by
      rcases stopped with shut | gone
      · exact hasEnded_of_shutdown_mem run shut
      · exact (hasEnded_of_finished_mem run gone).1
    constructor
    · cases phase : l.phase <;> simp [hasEnded, isTicking, phase] at ended ⊢
    · intro ks l' more
      obtain ⟨_, history, _, taken, _⟩ := more.of_hasEnded ended
      exact ⟨congrArg History.effects history, taken⟩

/-- A prompt about a deletion that is open from 10 to 110, and meanwhile word that the daemon is
dead and a shutdown: the answer is reported, the status and the errors are still asked for, and only
then the loop ends. -/
theorem loop_polls_open_prompt : ∃ (s : Station Rehearsal) (hs : Chronicle)
    (l : PollLoop Rehearsal), Course punctual (start 10 (by decide) s) hs l ∧
      .adjusted ∉ hs.kinds ∧ hs.starts = [10] ∧ hs.taken = [.daemonDead, .shutdown] ∧
      l.hasEnded = true ∧ l.now = 110 ∧
      l.effects = [.query .events, .query .notification,
        .prompt (Wording.deleteRepoText "r") (Wording.deleteRepoQuestion "r"),
        .confirmation "c" false, .query .status, .query .errors, .errors []] ∧
      Polls (·.2) l (Tick.runAll s [0]) ∧ Polls id l (Tick.runAll s [10]) ∧
      ∀ {ks l'}, Course punctual l ks l' → l'.effects = l.effects ∧ ks.taken = [] := by
  have run : Course punctual (start 10 (by decide)
      { channel := ({ notification := [⟨.ok (.ofMembers [("type", .text "del_repo_confirmation"),
          ("confirmation_id", .text "c"), ("repo_name", .text "r")]), 0⟩] } : Rehearsal)
        answers := [⟨true, 100⟩] }) _ _ :=
    .cons (.pass 10 (punctual_of_wake rfl rfl (by decide))) <|
    .cons (.move rfl) <| .cons (.move rfl) <| .cons (.move rfl) <| .cons (.move rfl) <|
    .cons (.move rfl) <| .cons (.accept .daemonDead rfl rfl) <| .cons (.accept .shutdown rfl rfl) <|
    .cons (.pass 110 (punctual_of_wake rfl rfl (by decide))) <|
    .cons (.move rfl) <| .cons (.move rfl) <| .cons (.move rfl) <| .cons (.move rfl) <|
    .cons (.move rfl) <| .cons (.move rfl) <| .cons (.move rfl) <| .cons (.move rfl) <| .nil _
  obtain ⟨timeless, punctually, _, _, stopped⟩ := loop_polls (by decide) _ run (by decide)
  exact ⟨_, _, _, run, by decide, rfl, rfl, rfl, rfl, rfl, timeless inferInstance [0] rfl,
    punctually run, (stopped (.inl (by decide))).2⟩

end PollLoop

end DaemonWatch
