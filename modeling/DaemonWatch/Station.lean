/-
  The place where events are handled.

  1. **The station** (`Station`): the channel to the daemon, the user with settings, accounts and
     answers, the link commands if there are any, the wall clock and the memo.  What will come from
     outside is part of it, given in the order in which it will come, so that handling events is a
     function.

  2. **Histories** (`History`): outputs with the times at which they were given off.

  3. **Work in steps.**  Work that has to wait for someone is done in steps.  A step gives off
     outputs and says how long to wait and what comes then (`Step`); `runFor` takes steps until
     nothing comes.

  4. **Enough steps are enough** (`runFor_eq`): when every step lowers a rank, any number of steps
     that the rank does not exceed comes to the same.  So the number is no part of what the work
     means.
-/
import DaemonWatch.Channel
import DaemonWatch.Reaction

namespace DaemonWatch

/-! ## The station -/

/-- What handling events depends on.  Answers and outcomes of link commands are given in the order
in which they will come; the user declines when there are none left, and commands succeed. -/
structure Station (σ : Type) where
  channel : σ
  preferences : Preferences := {}
  book : AccountBook := ⟨.validOnly, []⟩
  links : Option (List (Action → Reply Unit)) := none
  answers : List (Timed Bool) := []
  clock : Int := 0
  memo : Memo := {}

namespace Station

variable {σ : Type}

/-- The user's next answer. -/
def takeAnswer (s : Station σ) : Timed Bool × Station σ :=
  match s.answers with
  | [] => (⟨false, 0⟩, s)
  | a :: rest => (a, { s with answers := rest })

/-- The outcome of the next link command. -/
def takeLinkOutcome (s : Station σ) (a : Action) : Reply Unit × Station σ :=
  match s.links with
  | some (outcome :: rest) => (outcome a, { s with links := some rest })
  | _ => ({ result := .ok () }, s)

@[simp] theorem channel_takeAnswer (s : Station σ) : s.takeAnswer.2.channel = s.channel := by
  unfold takeAnswer
  split <;> rfl

@[simp] theorem channel_takeLinkOutcome (s : Station σ) (a : Action) :
    (s.takeLinkOutcome a).2.channel = s.channel := by
  unfold takeLinkOutcome
  split <;> rfl

/-- The account that a request may use: the one of its domain, if it is valid. -/
def accountFor? (s : Station σ) (request : ActionRequest) : Option Account :=
  (s.book.find? request.domainId).filter Account.isValid

end Station

/-! ## Work in steps -/

/-- Outputs with the times at which they were given off. -/
abbrev History := List (Nat × Output)

namespace History

/-- Outputs given off at one time. -/
def stamped (now : Nat) (outputs : List Output) : History := outputs.map (now, ·)

/-- The outputs without their times. -/
def outputs (h : History) : List Output := h.map (·.2)

/-- The effects with the times at which they were given off. -/
def timedEffects (h : History) : List (Nat × Effect) :=
  h.filterMap fun o => o.2.effect?.map (o.1, ·)

/-- The effects. -/
def effects (h : History) : List Effect := Output.effects h.outputs

@[simp] theorem outputs_append (h h' : History) :
    outputs (h ++ h') = h.outputs ++ h'.outputs := List.map_append

@[simp] theorem outputs_stamped (now : Nat) (outputs : List Output) :
    History.outputs (stamped now outputs) = outputs := by
  simp [History.outputs, stamped, Function.comp_def]

@[simp] theorem timedEffects_append (h h' : History) :
    timedEffects (h ++ h') = h.timedEffects ++ h'.timedEffects := List.filterMap_append

@[simp] theorem timedEffects_stamped (now : Nat) (outputs : List Output) :
    timedEffects (stamped now outputs) = (Output.effects outputs).map (now, ·) := by
  simp only [timedEffects, stamped, Output.effects, List.map_filterMap, List.filterMap_map]
  rfl

@[simp] theorem effects_append (h h' : History) : effects (h ++ h') = h.effects ++ h'.effects := by
  rw [effects, outputs_append, Output.effects_append]
  rfl

@[simp] theorem effects_stamped (now : Nat) (outputs : List Output) :
    effects (stamped now outputs) = Output.effects outputs := by
  rw [effects, outputs_stamped]

/-- The effects are the timed ones without their times. -/
theorem map_timedEffects (h : History) : h.timedEffects.map (·.2) = h.effects := by
  simp [timedEffects, effects, Output.effects, outputs, List.map_filterMap, List.filterMap_map,
    Function.comp_def]

end History

/-- One step of some work: its outputs, the station after it, and, unless the work is over, how long
to wait for what comes next. -/
structure Step (σ τ : Type) where
  outputs : List Output
  station : Station σ
  next : Option (Nat × τ)

/-- What some work has come to: all its outputs, the station and the time after it. -/
structure Run (σ : Type) where
  history : History
  station : Station σ
  time : Nat

/-- Takes steps from the time `now`, at most `n`, until the work is over. -/
def runFor {σ τ : Type} (step : Nat → Station σ → τ → Step σ τ) :
    (n : Nat) → (now : Nat) → Station σ → τ → Run σ
  | 0, now, s, _ => ⟨[], s, now⟩
  | n + 1, now, s, t =>
    let first := step now s t
    match first.next with
    | none => ⟨.stamped now first.outputs, first.station, now⟩
    | some (delay, t) =>
      let rest := runFor step n (now + delay) first.station t
      ⟨.stamped now first.outputs ++ rest.history, rest.station, rest.time⟩

/-- When every step lowers a rank that is never zero, any number of steps that the rank does not
exceed takes the work to its end. -/
theorem runFor_eq {σ τ : Type} {step : Nat → Station σ → τ → Step σ τ} (rank : τ → Nat)
    (positive : ∀ t, 0 < rank t)
    (lower : ∀ now s t t' delay, (step now s t).next = some (delay, t') → rank t' < rank t)
    {m n : Nat} (now : Nat) (s : Station σ) (t : τ) (hm : rank t ≤ m) (hn : rank t ≤ n) :
    runFor step m now s t = runFor step n now s t := by
  induction m generalizing n now s t with
  | zero => exact absurd (positive t) (by omega)
  | succ m ih =>
    cases n with
    | zero => exact absurd (positive t) (by omega)
    | succ n =>
      simp only [runFor]
      split
      next => rfl
      next delay t' next =>
        have less := lower now s t t' delay next
        have same := ih (n := n) (now + delay) (step now s t).station t' (by omega) (by omega)
        rw [same]

end DaemonWatch
