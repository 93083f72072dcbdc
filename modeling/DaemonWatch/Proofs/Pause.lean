/-
  A loop that has been told that the daemon is dead keeps quiet.

  Nothing is asked of the pace here: time may pass at any moment and for as long as it likes, so
  that ticks may be overdue throughout.

  1. **When a tick may start.**  A tick starts only when no command is queued and the loop is
     running.  As long as no shutdown is among them, the commands taken have left the liveness that
     they ask for (`afterAll?_taken`), and with an empty queue the commands taken are all those
     accepted.

  2. **The crux (`move?_ne_startTick`)**: with the news of a dead daemon accepted, an empty queue
     means that this news has been taken, behind all that was queued before it (`queue_course`).
     The number of commands queued at its acceptance therefore tells which of the commands taken
     were accepted later, and unless the news of the return is among these the loop is paused.

  3. **Bridge.**  So from the acceptance on no tick starts until then, and all that may still have
     an effect is the tick that was in progress: outside of it a loop that starts no tick has none
     (`Course.effects_of_not_isTicking`).  `pause_safety` says both.
-/
import DaemonWatch.Proofs.Course
import DaemonWatch.Rehearsal

namespace DaemonWatch.PollLoop

variable {σ : Type} [Channel σ] {pace : Pace σ} {l l' l₁ l₂ : PollLoop σ} {hs ks : Chronicle}

/-- Commands taken without a shutdown among them have left the liveness that they ask for. -/
theorem afterAll?_taken (run : Course pace l hs l') (goes : l'.hasEnded = false) :
    l.liveness.afterAll? hs.taken = some l'.liveness := by
  have endless : .shutdown ∉ hs.taken := by
    intro mem
    rw [hasEnded_of_shutdown_mem run mem] at goes
    cases goes
  rw [liveness_course run, Liveness.afterAll?_eq_some _ _ endless]

/-- With the news of a dead daemon accepted, and none of its return taken that was sent later, no
tick starts. -/
theorem move?_ne_startTick (dead : Occurs pace l (.accepted .daemonDead) l₁)
    (run : Course pace l₁ ks l₂)
    (gone : .daemonRestarted ∉ ks.taken.drop (l.queue.length + 1)) :
    l₂.move? ≠ some .startTick := by
  intro starts
  rw [move?_eq_startTick_iff] at starts
  obtain ⟨_, queue, _, running, _⟩ := starts
  -- Nothing is queued, so the news itself has been taken, behind all that was queued before it.
  have served := queue_course (.cons dead run)
  simp only [Chronicle.accepted_cons, Chronicle.taken_cons, Happening.accepted?, Happening.taken?,
    Option.toList_some, Option.toList_none, List.nil_append, queue, List.append_nil] at served
  rw [← List.append_assoc] at served
  have later : ks.taken.drop (l.queue.length + 1) = ks.accepted := by
    rw [← served]
    exact List.drop_left' (by simp)
  rw [later] at gone
  rw [liveness_course run, ← served, Liveness.afterAll_append, Liveness.afterAll_append] at running
  have paused : ∀ k : Liveness, k.afterAll [.daemonDead] = .paused := fun _ => rfl
  rw [paused, Liveness.afterAll_paused _ gone] at running
  cases running

/-- **Pause safety.**  A tick starts only when no command is queued and all the commands accepted
have been taken and leave the loop running.  From the moment at which the news of a dead daemon
is accepted, until the news of its return, accepted later, is taken, no tick starts; and as soon
as the loop is outside a tick, which it may be from the first, nothing has an effect. -/
theorem pause_safety {period : Nat} (period_pos : 0 < period) (s : Station σ)
    (run : Course pace (start period period_pos s) hs l) :
    (l.move? = some .startTick →
      l.queue = [] ∧ hs.taken = hs.accepted ∧
        Liveness.running.afterAll? hs.taken = some .running) ∧
    ∀ {l₁ l₂ ks}, Occurs pace l (.accepted .daemonDead) l₁ → Course pace l₁ ks l₂ →
      .daemonRestarted ∉ ks.taken.drop (l.queue.length + 1) →
      .tickStarted ∉ ks.kinds ∧
        ∀ {m ks₁ ks₂}, ks = ks₁ ++ ks₂ → Course pace l₁ ks₁ m → Course pace m ks₂ l₂ →
          m.isTicking = false → l₂.effects = m.effects := by
  constructor
  · intro starts
    have guard := (move?_eq_startTick_iff l).mp starts
    obtain ⟨phase, queue, _, running, _⟩ := guard
    have goes : l.hasEnded = false := by simp [hasEnded, phase]
    have served := queue_course run
    have folded := afterAll?_taken run goes
    rw [queue, List.append_nil] at served
    rw [running] at folded
    exact ⟨queue, served.symm, folded⟩
  · intro l₁ l₂ ks dead after gone
    have quiet : .tickStarted ∉ ks.kinds := by
      intro mem
      obtain ⟨ks₁, ks₂, m, m', rfl, reached, step, _⟩ := after.exists_of_mem mem
      refine move?_ne_startTick dead reached (fun back => gone ?_) (move?_of_tickStarted step).1
      rw [Chronicle.taken_append, List.drop_append]
      exact List.mem_append_left _ back
    refine ⟨quiet, ?_⟩
    intro m ks₁ ks₂ split _ rest outside
    refine rest.effects_of_not_isTicking outside fun mem => quiet ?_
    rw [split, Chronicle.kinds_append]
    exact List.mem_append_right _ mem

/-- A loop with a period of 10 ms that hears at once that the daemon is dead and back again, and
later, when a tick is overdue, that it is dead once more. -/
theorem pause_safety_dead_again : ∃ hs l l₁ ks l₂,
    Course anyPace (start 10 (by decide) { channel := ({} : Rehearsal) }) hs l ∧
      l.move? = some .startTick ∧ hs.taken = [.daemonDead, .daemonRestarted] ∧
      hs.taken = hs.accepted ∧ Liveness.running.afterAll? hs.taken = some .running ∧
      Occurs anyPace l (.accepted .daemonDead) l₁ ∧ Course anyPace l₁ ks l₂ ∧ l₂.now = 5000 ∧
      .daemonRestarted ∉ ks.taken.drop (l.queue.length + 1) ∧ .tickStarted ∉ ks.kinds := by
  have run : Course anyPace (start 10 (by decide) { channel := ({} : Rehearsal) }) _ _ :=
    .cons (.accept .daemonDead rfl rfl) <| .cons (.accept .daemonRestarted rfl rfl) <|
      .cons (.move rfl) <| .cons (.move rfl) <| .cons (.pass 30 trivial) <| .nil _
  obtain ⟨ready, quiet⟩ := pause_safety (by decide) _ run
  have gone : .daemonRestarted ∉ ([.daemonDead] : List Command).drop 1 := by decide
  refine ⟨_, _, _, _, _, run, rfl, rfl, (ready rfl).2.1, (ready rfl).2.2,
    .accept .daemonDead rfl rfl, .cons (.move rfl) <| .cons (.pass 5000 trivial) <| .nil _,
    rfl, gone, ?_⟩
  exact (quiet (.accept .daemonDead rfl rfl)
    (.cons (.move rfl) <| .cons (.pass 5000 trivial) <| .nil _) gone).1

end DaemonWatch.PollLoop
