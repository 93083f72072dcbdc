/-
  The error list that is shown.

  In a session an error list is shown by every tick in which the daemon counts as connected when the
  errors have their turn, and by no other.  It is what the daemon told in that turn, which is
  nothing when the query fails or no list comes.  So the list that was shown last depends on the
  last of those ticks alone.

  1. **Specification** (`SyncError.told`): the errors that a reply tells of, said without decoding
     it: those of the entries of a list that are objects, in order, and none when there is no list.

  2. **The other turns** show no error list, because their effects are segments of other queries
     (`Segment.errors?_of_ne`, `Turn.errors?_runAll`).  They leave the clock alone as well
     (`BegunTick.clock_turn`), by which the age of an error is told.

  3. **The crux (`BegunTick.effects_turn_errors`)**: the turn of the errors shows the errors told,
     if the daemon counts as connected.  Its reply is an error, a list or something else, and each
     comes to the same list as `SyncError.told` (`Turn.effects_finish_receiving_errors`).

  4. **Result.**  A tick shows one list or none (`BegunTick.errors_run`), and a session the lists of
     its ticks in order (`error_list_shown`).
-/
import DaemonWatch.Proofs.Session
import DaemonWatch.Proofs.TickShape

namespace DaemonWatch

variable {σ τ : Type}

/-! ## What a tick leaves as it is -/

/-- What no step of a tick changes: the settings, the accounts and the wall clock. -/
def Station.fixed (s : Station σ) : Preferences × AccountBook × Int :=
  (s.preferences, s.book, s.clock)

section Fixed

variable [Channel σ]

theorem Turn.fixed_step (q : Query) (now : Nat) (s : Station σ) (t : Turn) :
    (t.step q now s).station.fixed = s.fixed := by
  cases t with
  | ready =>
    simp only [step]
    split <;> rfl
  | receiving reply =>
    simp only [step]
    split
    next => rfl
    next payload _ =>
      obtain ⟨_, _, _, same⟩ := station_accept q s payload
      simp only [same]
      rfl
  | running e => cases e <;> rfl

theorem Turn.fixed_run (q : Query) (now : Nat) (s : Station σ) :
    (run q now s).station.fixed = s.fixed := by
  refine runFor_keeps (fun _ there => there.fixed = s.fixed) ?_ _ now s _ rfl
  intro now there t same
  rw [fixed_step, same]

theorem Turn.fixed_runAll (qs : List Query) (now : Nat) (s : Station σ) :
    (runAll qs now s).station.fixed = s.fixed := by
  induction qs generalizing now s with
  | nil => rfl
  | cons q qs ih => exact (ih _ _).trans (fixed_run q now s)

/-- A turn has the clock of its tick. -/
theorem BegunTick.clock_turn (b : BegunTick σ) (q : Query) :
    (b.turn q).station.clock = b.station.clock :=
  congrArg (·.2.2) (Turn.fixed_runAll q.earlier b.start b.station)

end Fixed

/-! ## Error lists among effects -/

/-- The error list that an effect shows, if it shows one. -/
def Effect.errors? : Effect → Option (List SyncError)
  | errors es => some es
  | _ => none

/-- The errors that a reply tells of at the time `now`: those of the entries of a list that are
objects, in order, and none when there is no list. -/
def SyncError.told (now : Int) : Except Failure Json → List SyncError
  | .ok (.array entries) => (entries.filter Json.isObject).map (ofPayload now)
  | _ => []

/-- Only the segment of the errors shows an error list. -/
theorem Segment.errors?_of_ne {q : Query} {answer : Bool} {effects : List Effect}
    (segment : Segment q answer effects) (other : q ≠ .errors) :
    effects.filterMap Effect.errors? = [] := by
  cases segment with
  | skipped => rfl
  | asked sequel => cases sequel <;> first | rfl | exact absurd rfl other

namespace Turn

variable [Channel σ]

/-- The effects of a turn are a segment. -/
theorem segment_run (q : Query) (now : Nat) (s : Station σ) :
    ∃ answer, Segment q answer (run q now s).history.effects := by
  obtain ⟨answer, effects, segment, heard⟩ := heard_run q now s.watched
  have same : (run q now s.watched).map (Station.seen Watched.channel) = run q now s :=
    run_seen Watched.isView q now s.watched
  have history : (run q now s.watched).history = (run q now s).history :=
    congrArg Run.history same
  refine ⟨answer, ?_⟩
  rw [← history, heard.effects]
  exact segment

/-- The turns of other queries show no error list. -/
theorem errors?_runAll {qs : List Query} (others : .errors ∉ qs) (now : Nat) (s : Station σ) :
    (runAll qs now s).history.effects.filterMap Effect.errors? = [] := by
  induction qs generalizing now s with
  | nil => rfl
  | cons q qs ih =>
    rw [List.mem_cons, not_or] at others
    obtain ⟨_, segment⟩ := segment_run q now s
    rw [runAll, Run.andThen, History.effects_append, List.filterMap_append,
      segment.errors?_of_ne (Ne.symm others.1), ih others.2]
    rfl

/-- When the reply to the query for the errors has come, the errors it tells of are shown. -/
theorem effects_finish_receiving_errors (now : Nat) (s : Station σ) (reply : Reply Json) :
    ((receiving reply).finish .errors now s).history.effects =
      [.errors (SyncError.told s.clock reply.result)] := by
  cases came : reply.result with
  | error f =>
    rw [finish_receiving_of_error .errors now s came, History.effects_stamped,
      Output.effects_append, Output.effects_notices]
    rfl
  | ok payload =>
    have decoded : Event.decode s.clock .errors payload =
      (Event.errorListNotices payload, .ok (.errors (SyncError.listOfPayload s.clock payload))) := rfl
    have list : SyncError.listOfPayload s.clock payload = SyncError.told s.clock (.ok payload) := by
      cases payload <;> rfl
    rw [finish_receiving_of_event .errors now s came decoded, Run.andThen, History.effects_append,
      History.effects_stamped, Output.effects_notices, list]
    rfl

end Turn

namespace BegunTick

variable [Channel σ]

/-- The errors that the daemon told of in a tick. -/
def errorsTold (b : BegunTick σ) : List SyncError :=
  SyncError.told b.station.clock (b.turn .errors).reply.result

/-- The turn of the errors shows those that the daemon told of, if it counts as connected. -/
theorem effects_turn_errors (b : BegunTick σ) :
    (b.turn .errors).run.history.effects =
      if (b.turn .errors).isConnected then [.query .errors, .errors b.errorsTold] else [] := by
  cases on : (b.turn .errors).isConnected with
  | false =>
    have skipped : (b.turn .errors).run = _ := Turn.run_of_disconnected .errors on
    rw [skipped]
    rfl
  | true =>
    have asked : (b.turn .errors).run = _ := Turn.run_of_connected .errors on
    have clock := b.clock_turn .errors
    rw [asked, Run.andThen, History.effects_append, Turn.effects_finish_receiving_errors,
      History.effects_stamped, errorsTold, ← clock]
    rfl

/-- A tick shows an error list in the turn of the errors, and in no other. -/
theorem errors_run (b : BegunTick σ) :
    b.run.history.effects.filterMap Effect.errors? =
      if (b.turn .errors).isConnected then [b.errorsTold] else [] := by
  have others : .errors ∉ Query.errors.earlier := by decide
  have tick : b.run.history =
      (Turn.runAll Query.errors.earlier b.start b.station).history ++
        (b.turn .errors).run.history := by
    rw [run, Tick.run_eq_andThen_errors]
    rfl
  rw [tick, History.effects_append, List.filterMap_append, Turn.errors?_runAll others,
    effects_turn_errors]
  split <;> rfl

end BegunTick

/-! ## The list that is shown -/

/-- **The error list that is shown.**  The lists shown in a session are what the daemon told in the
ticks in which it counted as connected when the errors had their turn, one for each and in order.
So the last of them depends on the last of those ticks alone, whatever came before it and whatever
ticks came after it; and when there was no such tick, no list has been shown. -/
theorem error_list_shown [Channel σ] (ls : List Lull) (now : Nat) (s : Station σ) :
    let asked := (Tick.begun ls now s).filter fun b => (b.turn .errors).isConnected
    let shown := (Tick.session ls now s).history.effects.filterMap Effect.errors?
    shown = asked.map BegunTick.errorsTold ∧
      shown.getLast? = asked.getLast?.map BegunTick.errorsTold ∧
      (shown = [] ↔ ∀ b ∈ Tick.begun ls now s, (b.turn .errors).isConnected = false) := by
  intro asked shown
  have all : shown = asked.map BegunTick.errorsTold := by
    simp only [shown, asked, Tick.history_session]
    induction Tick.begun ls now s with
    | nil => rfl
    | cons b bs ih =>
      rw [List.flatMap_cons, History.effects_append, List.filterMap_append, b.errors_run, ih,
        List.filter_cons]
      split <;> rfl
  refine ⟨all, ?_, ?_⟩
  · rw [all, List.getLast?_map]
  · rw [all, List.map_eq_nil_iff, List.filter_eq_nil_iff]
    simp only [Bool.not_eq_true]

/-- The list of the first tick goes when the query fails in the second, and in the third, which
finds the daemon disconnected at the errors' turn, nothing is shown. -/
example :
    let s : Station Rehearsal :=
      { channel :=
          { connections := [true, true, true, true, true, true, true, true, true, true, true, false]
            errors := [⟨.ok (.array [.ofMembers [], .null]), 0⟩, ⟨.error (.http .bodyLost), 0⟩,
              ⟨.ok (.array []), 0⟩] } }
    ((Tick.session [.idle 1, .idle 1, .idle 1] 0 s).history.effects.filterMap
      Effect.errors?).map List.length = [1, 0] := by
  decide

end DaemonWatch
