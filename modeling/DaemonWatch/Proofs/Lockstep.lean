/-
  Two stations in lockstep.

  Two stations may differ in something that hardly matters, and go through the same occasions.  That
  they do the same all along is proved here once, for any such difference.

  1. **Specification** (`Lockstep`): which difference is allowed between the stations, and which
     outputs are to be the same.  Two runs are in step when what counts of their outputs is the
     same, with the times, and they end at the same time on related stations (`Run.InStep`).

  2. **What has to be shown of a difference** (`Lockstep.IsKept`).  It has to be kept where a
     station meets something outside: related stations look the same to an event, their channels
     answer the same, and what is left to do after an event is in step.

  3. **The crux (`Run.InStep.andThen`)**: what comes later is in step, if it is in step on all
     related stations.  All else is made of pieces that follow one upon the other, so this one rule
     carries the difference through events (`IsKept.handle`), turns (`IsKept.turn`) and whole
     sessions (`IsKept.session`).  Only a lull may look at what is different, and has to be asked
     not to.
-/
import DaemonWatch.Proofs.Occasions

namespace DaemonWatch

variable {σ σ' : Type}

/-- What counts of what is given off, and how the stations are related.  Each use of it picks the
two: what is to be shown independent of a difference is what counts, and the difference is what the
relation allows. -/
structure Lockstep (σ σ' : Type) where
  counts : Output → Bool
  related : Station σ → Station σ' → Prop

/-- The outputs that count, with the times at which they were given off. -/
def History.counted (counts : Output → Bool) (h : History) : History :=
  h.filter fun o => counts o.2

theorem History.counted_append (counts : Output → Bool) (h h' : History) :
    (h ++ h').counted counts = h.counted counts ++ h'.counted counts := List.filter_append ..

/-- That two pieces of work end at the same time and on related stations, and that what counts of
what they have given off is the same. -/
structure Run.InStep (l : Lockstep σ σ') (run : Run σ) (run' : Run σ') : Prop where
  history : run.history.counted l.counts = run'.history.counted l.counts
  station : l.related run.station run'.station
  time : run.time = run'.time

namespace Run.InStep

variable {l : Lockstep σ σ'}

/-- Related stations are in step as long as the same is given off. -/
theorem here {s : Station σ} {s' : Station σ'} (related : l.related s s') (h : History)
    (now : Nat) : InStep l ⟨h, s, now⟩ ⟨h, s', now⟩ := ⟨rfl, related, rfl⟩

/-- What comes later is in step when it is in step on all related stations. -/
theorem andThen {run : Run σ} {run' : Run σ'} {more : Nat → Station σ → Run σ}
    {more' : Nat → Station σ' → Run σ'} (first : InStep l run run')
    (rest : ∀ now s s', l.related s s' → InStep l (more now s) (more' now s')) :
    InStep l (run.andThen more) (run'.andThen more') := by
  have there := rest run.time _ _ first.station
  rw [first.time] at there
  refine ⟨?_, ?_, ?_⟩
  · show History.counted l.counts (run.history ++ _) = History.counted l.counts (run'.history ++ _)
    rw [History.counted_append, History.counted_append, first.history, first.time, there.history]
  · show l.related (more run.time run.station).station _
    rw [first.time]
    exact there.station
  · show (more run.time run.station).time = _
    rw [first.time]
    exact there.time

end Run.InStep

/-- That a lockstep is kept by what a station does: related stations look the same to an event,
their channels answer the same, and what is left to do is in step. -/
structure Lockstep.IsKept [Channel σ] [Channel σ'] (l : Lockstep σ σ') : Prop where
  preferences {s s'} (related : l.related s s') : s.preferences = s'.preferences
  clock {s s'} (related : l.related s s') : s.clock = s'.clock
  remembering {s s'} (related : l.related s s') (e : Event) :
    l.related (s.remembering e) (s'.remembering e)
  connected {s s'} (related : l.related s s') (now : Nat) :
    let asked := Channel.connected now s.channel
    let asked' := Channel.connected now s'.channel
    asked.1 = asked'.1 ∧
      l.related { s with channel := asked.2 } { s' with channel := asked'.2 }
  query {s s'} (related : l.related s s') (q : Query) (now : Nat) :
    let asked := Channel.query q now s.channel
    let asked' := Channel.query q now s'.channel
    asked.1 = asked'.1 ∧
      l.related { s with channel := asked.2 } { s' with channel := asked'.2 }
  followUp {s s'} (related : l.related s s') (f : FollowUp) (now : Nat) :
    (f.run now s).InStep l (f.run now s')

namespace Lockstep.IsKept

variable [Channel σ] [Channel σ'] {l : Lockstep σ σ'} (kept : l.IsKept)

include kept

/-! ## Events -/

/-- An event leads to the same, and what is left to do after it is in step. -/
theorem handle (e : Event) (now : Nat) {s : Station σ} {s' : Station σ'}
    (related : l.related s s') : (e.handle now s).InStep l (e.handle now s') := by
  rw [Event.handle_eq, Event.handle_eq, kept.preferences related]
  have shown := Run.InStep.here (kept.remembering related e)
    (.stamped now (e.react s'.preferences).outputs) now
  rcases (e.react s'.preferences).followUp with _ | f
  · exact shown
  · apply shown.andThen
    intro later t t' related
    exact kept.followUp related f later

theorem deliver (q : Query) (payload : Json) (now : Nat) {s : Station σ} {s' : Station σ'}
    (related : l.related s s') :
    (Event.deliver q payload now s).InStep l (Event.deliver q payload now s') := by
  unfold Event.deliver
  rw [kept.clock related]
  rcases Event.decode s'.clock q payload with ⟨notices, _ | e⟩
  · exact .here related _ _
  · apply (Run.InStep.here related _ _).andThen
    intro later t t' related
    exact kept.handle e later related

/-! ## Turns -/

/-- The same reply is received in step: it is decoded by the clock, which is the same. -/
theorem receiving (q : Query) (reply : Reply Json) (now : Nat) {s : Station σ} {s' : Station σ'}
    (related : l.related s s') :
    ((Turn.receiving reply).finish q now s).InStep l ((Turn.receiving reply).finish q now s') := by
  rcases came : reply.result with failure | payload
  · rw [Turn.finish_receiving_of_error q now s came, Turn.finish_receiving_of_error q now s' came]
    exact .here related _ _
  · rcases Event.decode_cases s.clock q payload with
      ⟨notices, message, -, decoded⟩ | ⟨notices, e, -, decoded⟩
    · have decoded' := kept.clock related ▸ decoded
      rw [Turn.finish_receiving_of_undecodable q now s came decoded,
        Turn.finish_receiving_of_undecodable q now s' came decoded']
      exact .here related _ _
    · have decoded' := kept.clock related ▸ decoded
      rw [Turn.finish_receiving_of_event q now s came decoded,
        Turn.finish_receiving_of_event q now s' came decoded']
      apply (Run.InStep.here related _ _).andThen
      intro later t t' related
      exact kept.handle e later related

theorem turn (q : Query) (now : Nat) {s : Station σ} {s' : Station σ'} (related : l.related s s') :
    (Turn.run q now s).InStep l (Turn.run q now s') := by
  obtain ⟨same, asked⟩ := kept.connected related now
  cases on : (Channel.connected now s.channel).1 with
  | false =>
    rw [Turn.run_of_disconnected q on, Turn.run_of_disconnected q (same ▸ on)]
    exact .here asked _ _
  | true =>
    obtain ⟨reply, told⟩ := kept.query asked q now
    rw [Turn.run_of_connected q on, Turn.run_of_connected q (same ▸ on)]
    dsimp only at reply told ⊢
    rw [reply]
    apply (Run.InStep.here told _ _).andThen
    intro later t t' related
    exact kept.receiving q _ later related

theorem runAll (qs : List Query) (now : Nat) {s : Station σ} {s' : Station σ'}
    (related : l.related s s') : (Turn.runAll qs now s).InStep l (Turn.runAll qs now s') := by
  induction qs generalizing now s s' with
  | nil => exact .here related _ _
  | cons q qs ih =>
    apply (kept.turn q now related).andThen
    intro later t t' related
    exact ih later related

/-! ## Sessions -/

/-- An occasion is in step, if it is not a lull that looks at what is different. -/
theorem occasion (o : Occasion) (now : Nat) {s : Station σ} {s' : Station σ'}
    (related : l.related s s')
    (blind : ∀ lull, o = .lull lull → l.related (s.meanwhile lull) (s'.meanwhile lull)) :
    (o.run now s).InStep l (o.run now s') := by
  rcases o with lull | _ | ⟨q, payload⟩
  · exact .here (blind lull rfl) _ _
  · show (Tick.run now s).InStep l (Tick.run now s')
    rw [Tick.run_eq_runAll, Tick.run_eq_runAll]
    exact kept.runAll Query.all now related
  · exact kept.deliver q payload now related

/-- **Sessions on related stations are in step**, if their lulls keep the stations related.  What a
station does by itself has been dealt with by then (`Lockstep.IsKept`); a lull is what is done to
it. -/
theorem session (os : List Occasion) (now : Nat) {s : Station σ} {s' : Station σ'}
    (related : l.related s s')
    (blind : ∀ lull, .lull lull ∈ os → ∀ t t', l.related t t' →
      l.related (t.meanwhile lull) (t'.meanwhile lull)) :
    (Session.run os now s).InStep l (Session.run os now s') := by
  induction os generalizing now s s' with
  | nil => exact .here related _ _
  | cons o os ih =>
    have first : (o.run now s).InStep l (o.run now s') := by
      apply kept.occasion o now related
      rintro lull rfl
      exact blind lull List.mem_cons_self s s' related
    apply first.andThen
    intro later t t' related
    exact ih later related fun lull mem => blind lull (List.mem_cons_of_mem o mem)

end Lockstep.IsKept

end DaemonWatch
