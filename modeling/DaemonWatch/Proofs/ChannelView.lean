/-
  A channel seen as another.

  To see a channel as another is to forget some of its state, where the other gives the same answers
  (`Channel.IsView`).  Something can then be attached to a channel that only looks on, a record of
  the calls or a clock, and whatever is done over the channel with it is done over the channel
  without it.

  1. **Work that looks alike** (`Step.map`, `Run.map`).  When no step sees the difference between
     two stations, neither does the work made of such steps (`runFor_map`), nor one piece of work
     after another (`Run.map_andThen`).

  2. **The crux is that the steps do not see it**, layer by layer.  Beginning upon an event does not
     ask the channel at all, so there only the parts of the station besides the channel matter
     (`Event.begin_map`, `Event.begin_seen`).  The steps of errands and turns ask the channel, and
     get the same answer from both by what a view is (`Errand.step_seen`, `Turn.step_seen`).

  3. **Result** (`Tick.run_seen`): ticks give off the same, take as long, and leave stations that
     look the same.
-/
import DaemonWatch.Proofs.TickSteps

namespace DaemonWatch

variable {σ σ' τ : Type}

/-! ## Stations that look alike -/

/-- A step on another station that looks like this one. -/
def Step.map (f : Station σ → Station σ') (step : Step σ τ) : Step σ' τ :=
  ⟨step.outputs, f step.station, step.next⟩

/-- Work on another station that looks like this one. -/
def Run.map (f : Station σ → Station σ') (run : Run σ) : Run σ' :=
  ⟨run.history, f run.station, run.time⟩

/-- When steps do not see the difference between two stations, neither does the work. -/
theorem runFor_map {f : Station σ → Station σ'}
    {step : Nat → Station σ → τ → Step σ τ} {step' : Nat → Station σ' → τ → Step σ' τ}
    (same : ∀ now s t, (step now s t).map f = step' now (f s) t) (n now : Nat) (s : Station σ)
    (t : τ) : (runFor step n now s t).map f = runFor step' n now (f s) t := by
  induction n generalizing now s t with
  | zero => rfl
  | succ n ih =>
    simp only [runFor, ← same now s t, Step.map]
    cases (step now s t).next with
    | none => rfl
    | some next => simp only [Run.map, ← ih]

/-- Some work and then more looks like the first and then like the rest. -/
theorem Run.map_andThen {f : Station σ → Station σ'} {more : Nat → Station σ → Run σ}
    {more' : Nat → Station σ' → Run σ'} (same : ∀ now s, (more now s).map f = more' now (f s))
    (first : Run σ) : (first.andThen more).map f = (first.map f).andThen more' := by
  have rest := same first.time first.station
  simp only [Run.andThen, Run.map] at rest ⊢
  rw [← rest]

/-- The station that remembers an event. -/
def Station.remembering (s : Station σ) (e : Event) : Station σ :=
  { s with memo := e.remember s.memo }

/-- An event is remembered, what it leads to is given off, and what is left to do begins. -/
theorem Event.begin_eq (s : Station σ) (e : Event) :
    e.begin s =
      match (e.react s.preferences).followUp with
      | none => ⟨(e.react s.preferences).outputs, s.remembering e, none⟩
      | some u =>
        let first := u.begin (s.remembering e)
        ⟨(e.react s.preferences).outputs ++ first.outputs, first.station, first.next⟩ := rfl

/-- An event begins alike on stations with the same preferences that remember it alike and on which
what is left to do begins alike. -/
theorem Event.begin_map {f : Station σ → Station σ'} (s : Station σ) (e : Event)
    (preferences : (f s).preferences = s.preferences)
    (remembers : f (s.remembering e) = (f s).remembering e)
    (begins : ∀ s (u : FollowUp), (u.begin s).map f = u.begin (f s)) :
    (e.begin s).map f = e.begin (f s) := by
  rw [begin_eq, begin_eq, preferences, ← remembers]
  cases (e.react s.preferences).followUp with
  | none => rfl
  | some u =>
    simp only [← begins]
    rfl

/-- An event is handled alike on stations on which it begins alike and errands go on alike. -/
theorem Event.handle_map [Channel σ] [Channel σ'] {f : Station σ → Station σ'} (now : Nat)
    (s : Station σ) (e : Event) (begins : (e.begin s).map f = e.begin (f s))
    (goesOn : ∀ now s (errand : Errand), (errand.step now s).map f = errand.step now (f s)) :
    (e.handle now s).map f = e.handle now (f s) := by
  simp only [handle, ← begins, Step.map]
  cases next : (e.begin s).next with
  | none => rfl
  | some n =>
    have rest := runFor_map goesOn n.2.rank (now + n.1) (e.begin s).station n.2
    simp only [Run.map] at rest ⊢
    rw [← rest]

/-! ## Views of a channel -/

/-- That a channel gives the answers of what it is seen as, and is seen afterwards as what that has
become.  A record of the calls, a watch and a rule for reports are all such
channels around another. -/
structure Channel.IsView [Channel σ] [Channel σ'] (see : σ → σ') : Prop where
  connected : ∀ now c, Channel.connected now (see c) =
    ((Channel.connected now c).1, see (Channel.connected now c).2)
  query : ∀ q now c, Channel.query q now (see c) =
    ((Channel.query q now c).1, see (Channel.query q now c).2)
  confirm : ∀ id cancelled now c, Channel.confirm id cancelled now (see c) =
    ((Channel.confirm id cancelled now c).1, see (Channel.confirm id cancelled now c).2)

/-- The station over what its channel is seen as. -/
def Station.seen (see : σ → σ') (s : Station σ) : Station σ' :=
  { channel := see s.channel, preferences := s.preferences, book := s.book, links := s.links
    answers := s.answers, clock := s.clock, memo := s.memo }

/-! ### What does not ask the channel -/

theorem FollowUp.begin_seen (see : σ → σ') (s : Station σ) (f : FollowUp) :
    (f.begin s).map (Station.seen see) = f.begin (s.seen see) := by
  cases f with
  | askUser id text question =>
    cases answers : s.answers <;>
      simp [begin, Step.map, Station.takeAnswer, Station.seen, answers]
  | runLink request =>
    have links : (s.seen see).links = s.links := rfl
    have account : (s.seen see).accountFor? request = s.accountFor? request := rfl
    simp only [begin, links, account]
    split
    next outcomes _ given _ =>
      cases outcomes with
      | nil => simp [Step.map, Station.takeLinkOutcome, links, given]
      | cons outcome rest =>
        simp only [Step.map, Station.takeLinkOutcome, links, given]
        rfl
    next => rfl

theorem Event.begin_seen (see : σ → σ') (s : Station σ) (e : Event) :
    (e.begin s).map (Station.seen see) = e.begin (s.seen see) :=
  begin_map s e rfl rfl (FollowUp.begin_seen see)

theorem Turn.accept_seen (see : σ → σ') (q : Query) (s : Station σ) (payload : Json) :
    (accept q s payload).map (Station.seen see) = accept q (s.seen see) payload := by
  have clock : (s.seen see).clock = s.clock := rfl
  simp only [accept, clock, ← Event.begin_seen]
  split <;> rfl

/-! ### What does -/

section View

variable [Channel σ] [Channel σ'] {see : σ → σ'} (view : Channel.IsView see)

include view

theorem Errand.step_seen (now : Nat) (s : Station σ) (e : Errand) :
    (e.step now s).map (Station.seen see) = e.step now (s.seen see) := by
  cases e with
  | asking id confirmed =>
    have told := view.confirm id (!confirmed) now s.channel
    simp only [step, Step.map, Station.seen, told]
  | reporting | linking => rfl

theorem Turn.step_seen (q : Query) (now : Nat) (s : Station σ) (t : Turn) :
    (t.step q now s).map (Station.seen see) = t.step q now (s.seen see) := by
  cases t with
  | ready =>
    have asked := view.connected now s.channel
    have told := view.query q now (Channel.connected now s.channel).2
    by_cases on : (Channel.connected now s.channel).1 = true <;>
      simp [step, Step.map, Station.seen, asked, told, on]
  | receiving reply =>
    simp only [step, ← accept_seen]
    split <;> rfl
  | running e =>
    simp only [step, ← e.step_seen view now s]
    rfl

theorem Turn.run_seen (q : Query) (now : Nat) (s : Station σ) :
    (run q now s).map (Station.seen see) = run q now (s.seen see) :=
  runFor_map (step_seen view q) _ _ _ _

theorem Tick.step_seen (now : Nat) (s : Station σ) (t : Tick) :
    (t.step now s).map (Station.seen see) = t.step now (s.seen see) := by
  simp only [step, ← t.turn.step_seen view t.query now s]
  rfl

/-- **A tick does not see the difference** between a channel and what it is seen as.  So what is
found out about a tick by recording its calls is true of the tick without the record. -/
theorem Tick.run_seen (now : Nat) (s : Station σ) :
    (run now s).map (Station.seen see) = run now (s.seen see) := by
  rw [← finish_start, ← finish_start]
  exact runFor_map (step_seen view) _ _ _ _

end View

end DaemonWatch
