/-
  The loop comes to rest, time passes as asked, and whoever waits for the loop is served.

  `settle`, `runUntil` and `runWhileNot` go round a number of times that is fixed beforehand.  That
  this number is always enough is what has to be proved here.  Each of the three has a quantity that
  falls from one round to the next, and the number is a bound on it.

  1. **Moves** (`of_move?`, `move?_eq_startTick_iff`): each move is made in one phase, and with one
     kind of queue.  What follows goes by these cases and does not look into `move?` again.

  2. **Settling.**  The quantity is `work`.  It is a lexicographic order written as one sum: the
     milliseconds for which the ticker is overdue, then the commands queued, then what is left of
     the phase.  A tick that starts adds less than 64 to the phase and makes the ticker due at least
     one millisecond later, which is why an overdue millisecond counts as 64.  The crux is that
     every move lowers the sum (`work_perform_lt`); so after `work` moves the loop has to wait
     (`move?_settle`), and what every move keeps holds there (`settle_induction`).

  3. **Passing time.**  A loop that has to wait wakes up later than now (`now_lt_of_wake?`).  So
     there are no more stops than milliseconds: `runUntil` ends at the moment asked for
     (`now_runUntil`), and more stops than that would make no difference (`runUntilFor_eq`).

  4. **Waiting for the loop.**  While commands are queued no tick starts, so a settled loop that
     goes on is in a tick (`ticking_of_queued`), and every stop shortens that tick
     (`phaseWork_settle_lt`).  `runWhileNot_reaches` is the one induction over these stops.  It is
     used for two conditions, neither of which can be missing without a command in the queue: that
     there is room (`isReady_runWhileNot`), and that a loop to which a shutdown was sent has ended
     (`hasEnded_shutdown`).
-/
import DaemonWatch.PollLoop.Handle

namespace DaemonWatch.PollLoop

variable {σ : Type}

/-! ## One move -/

/-- What a loop between ticks does next. -/
theorem move?_between (l : PollLoop σ) (between : l.phase = .between) :
    l.move? =
      match l.queue with
      | c :: _ => some (.take c)
      | [] =>
        if l.abandoned then some .finish
        else if l.tickIsDue then some .startTick
        else none := by
  cases l
  cases between
  rfl

/-- The phases and queues at which each move is made.  Proofs about a move start from here, by case
on the move; which phase and queue it is follows. -/
theorem of_move? {l : PollLoop σ} {m : Move} (h : l.move? = some m) :
    match m with
    | .take c => l.phase = .between ∧ ∃ rest, l.queue = c :: rest
    | .finish => l.phase = .between ∧ l.queue = []
    | .startTick => l.phase = .between ∧ l.queue = [] ∧ l.ticker.due ≤ l.now
    | .goOn tick => ∃ wake, l.phase = .ticking wake tick ∧ wake ≤ l.now := by
  cases phase : l.phase with
  | ended => simp [move?, phase] at h
  | ticking wake tick =>
    simp only [move?, phase] at h
    split at h
    · cases h
      exact ⟨wake, rfl, by assumption⟩
    · cases h
  | between =>
    rw [move?_between l phase] at h
    split at h
    next c rest queue =>
      cases h
      exact ⟨rfl, rest, queue⟩
    next queue =>
      split at h
      · cases h
        exact ⟨rfl, queue⟩
      · split at h
        next due =>
          cases h
          simp only [tickIsDue, Bool.and_eq_true, decide_eq_true_eq] at due
          exact ⟨rfl, queue, due.2⟩
        next => cases h

/-- When a loop starts a tick. -/
theorem move?_eq_startTick_iff (l : PollLoop σ) :
    l.move? = some .startTick ↔
      l.phase = .between ∧ l.queue = [] ∧ l.abandoned = false ∧ l.liveness = .running ∧
        l.ticker.due ≤ l.now := by
  cases phase : l.phase with
  | ended => simp [move?, phase]
  | ticking wake tick =>
    simp only [move?, phase]
    split <;> simp
  | between =>
    rw [move?_between l phase]
    cases queue : l.queue with
    | cons c rest => simp
    | nil =>
      cases gone : l.abandoned with
      | true => simp
      | false => simp [tickIsDue, Liveness.isRunning]

/-- An ended loop does nothing. -/
theorem move?_of_hasEnded {l : PollLoop σ} (ended : l.hasEnded = true) : l.move? = none := by
  cases phase : l.phase with
  | ended => simp [move?, phase]
  | between | ticking => simp [hasEnded, phase] at ended

section Perform

variable [Channel σ]

theorem now_perform (l : PollLoop σ) (m : Move) : (l.perform m).now = l.now := by
  cases m <;> rfl

/-- A tick that goes on, or ends, has less left. -/
theorem phaseWork_goOn_lt (l : PollLoop σ) (tick : Tick) :
    phaseWork (l.goOn tick).phase < 2 + tick.rank := by
  simp only [goOn]
  split
  next delay tick' next =>
    exact Nat.add_lt_add_left (Tick.rank_step l.now l.station tick tick' delay next) 2
  next => simp only [phaseWork]; omega

/-- Every move lowers the work at this moment.  A command that is taken leaves a shorter queue, and
may end the loop; a tick that starts brings more work, but its ticker is due later, which counts
more; a tick that goes on has a lower rank, or is over. -/
theorem work_perform_lt {l : PollLoop σ} {m : Move} (h : l.move? = some m) :
    (l.perform m).work < l.work := by
  have made := of_move? h
  cases m with
  | take c =>
    obtain ⟨phase, rest, queue⟩ := made
    have due : l.now + 1 - (l.take c).ticker.due ≤ l.now + 1 - l.ticker.due := by
      simp only [take, record]
      split
      · have := l.ticker.period_pos
        simp only [Ticker.restart]
        omega
      · exact Nat.le_refl _
    have less : phaseWork (l.take c).phase ≤ 1 := by
      simp only [take, record, phase]
      split <;> simp [phaseWork]
    have shorter : (l.take c).queue.length = rest.length := by simp [take, record, queue]
    have same : (l.take c).now = l.now := rfl
    simp only [perform, work, shorter, same, queue, phase, List.length_cons, phaseWork] at *
    omega
  | finish =>
    obtain ⟨phase, _⟩ := made
    simp only [perform, work, phase, phaseWork]
    omega
  | startTick =>
    obtain ⟨phase, queue, due⟩ := made
    have later := l.ticker.due_lt_due_fire l.now
    simp only [perform, startTick, work, phase, phaseWork, Tick.rank_start]
    omega
  | goOn tick =>
    obtain ⟨wake, phase, _⟩ := made
    have less := phaseWork_goOn_lt l tick
    have same : (l.goOn tick).now = l.now ∧ (l.goOn tick).ticker = l.ticker ∧
        (l.goOn tick).queue = l.queue := ⟨rfl, rfl, rfl⟩
    simp only [perform, work, same, phase, phaseWork] at *
    omega

/-- A move leaves the queue alone or takes its first command. -/
theorem queue_perform_suffix (l : PollLoop σ) (m : Move) : (l.perform m).queue <:+ l.queue := by
  cases m with
  | take c => exact List.tail_suffix _
  | finish | startTick | goOn => exact List.suffix_refl _

/-- While commands stay queued, no move makes the phase longer. -/
theorem phaseWork_perform_le {l : PollLoop σ} {m : Move} (h : l.move? = some m)
    (queued : (l.perform m).queue ≠ []) : phaseWork (l.perform m).phase ≤ phaseWork l.phase := by
  have made := of_move? h
  cases m with
  | take c =>
    simp only [perform, take, record, made.1]
    split <;> simp [phaseWork]
  | finish => simp [perform, phaseWork]
  | startTick => exact absurd made.2.1 queued
  | goOn tick =>
    obtain ⟨wake, phase, _⟩ := made
    rw [phase]
    exact Nat.le_of_lt (phaseWork_goOn_lt l tick)

end Perform

/-! ## Settling -/

section Settle

variable [Channel σ]

theorem now_settleFor (n : Nat) (l : PollLoop σ) : (settleFor n l).now = l.now := by
  induction n generalizing l with
  | zero => rfl
  | succ n ih =>
    simp only [settleFor]
    split
    · rw [ih, now_perform]
    · rfl

theorem now_settle (l : PollLoop σ) : l.settle.now = l.now := now_settleFor _ l

theorem move?_settleFor (n : Nat) (l : PollLoop σ) (enough : l.work ≤ n) :
    (settleFor n l).move? = none := by
  induction n generalizing l with
  | zero =>
    cases move : l.move? with
    | none => exact move
    | some m => exact absurd (work_perform_lt move) (by omega)
  | succ n ih =>
    simp only [settleFor]
    split
    next m move =>
      have less := work_perform_lt move
      exact ih _ (by omega)
    next move => exact move

/-- A settled loop has to wait. -/
theorem move?_settle (l : PollLoop σ) : l.settle.move? = none :=
  move?_settleFor _ l (Nat.le_refl _)

/-- What holds of a loop and is kept by its moves holds when it has settled. -/
theorem settle_induction {motive : PollLoop σ → Prop} (l : PollLoop σ) (start : motive l)
    (move : ∀ l m, motive l → l.move? = some m → motive (l.perform m)) : motive l.settle := by
  unfold settle
  generalize l.work = n
  induction n generalizing l with
  | zero => exact start
  | succ n ih =>
    simp only [settleFor]
    split
    next m made => exact ih _ (move l m start made)
    next => exact start

theorem queue_settleFor_suffix (n : Nat) (l : PollLoop σ) : (settleFor n l).queue <:+ l.queue := by
  induction n generalizing l with
  | zero => exact List.suffix_refl _
  | succ n ih =>
    simp only [settleFor]
    split
    · exact (ih _).trans (queue_perform_suffix l _)
    · exact List.suffix_refl _

/-- While commands stay queued, settling makes the phase no longer. -/
theorem phaseWork_settleFor_le (n : Nat) (l : PollLoop σ) (queued : (settleFor n l).queue ≠ []) :
    phaseWork (settleFor n l).phase ≤ phaseWork l.phase := by
  induction n generalizing l with
  | zero => exact Nat.le_refl _
  | succ n ih =>
    cases move : l.move? with
    | none => simp only [settleFor, move, Nat.le_refl]
    | some m =>
      simp only [settleFor, move] at queued ⊢
      have before : (l.perform m).queue ≠ [] := fun none =>
        queued (List.suffix_nil.mp (none ▸ queue_settleFor_suffix n (l.perform m)))
      exact Nat.le_trans (ih _ queued) (phaseWork_perform_le move before)

/-- While commands stay queued, settling shortens a tick whose wait is over. -/
theorem phaseWork_settle_lt (l : PollLoop σ) {wake : Nat} {tick : Tick}
    (phase : l.phase = .ticking wake tick) (passed : wake ≤ l.now) (queued : l.settle.queue ≠ []) :
    phaseWork l.settle.phase < phaseWork l.phase := by
  have move : l.move? = some (.goOn tick) := by simp [move?, phase, passed]
  have positive : l.work = (l.work - 1) + 1 := by
    have := work_perform_lt move
    omega
  have first : l.settle = settleFor (l.work - 1) (l.goOn tick) := by
    unfold settle
    rw [positive]
    simp only [settleFor, move]
    rfl
  rw [first] at queued ⊢
  refine Nat.lt_of_le_of_lt (phaseWork_settleFor_le _ _ queued) ?_
  rw [phase]
  exact phaseWork_goOn_lt l tick

end Settle

/-! ## Passing time -/

/-- A loop that has to wait wakes up later than now.  So time moves on from one stop to the next,
and a number of milliseconds is a bound on the stops in it. -/
theorem now_lt_of_wake? {l : PollLoop σ} (waits : l.move? = none) {wake : Nat}
    (wakes : l.wake? = some wake) : l.now < wake := by
  cases phase : l.phase with
  | ended => simp [wake?, phase] at wakes
  | ticking wake' tick =>
    simp only [wake?, phase, Option.some.injEq] at wakes
    simp only [move?, phase] at waits
    split at waits
    · cases waits
    · omega
  | between =>
    simp only [wake?, phase] at wakes
    split at wakes
    next running =>
      cases wakes
      rw [move?_between l phase] at waits
      split at waits
      · cases waits
      · split at waits
        · cases waits
        · split at waits
          · cases waits
          next idle =>
            simp only [tickIsDue, running, Bool.true_and, decide_eq_true_eq] at idle
            omega
    next => cases wakes

section Time

variable [Channel σ]

theorem now_runUntilFor (n t : Nat) (l : PollLoop σ) (later : l.now ≤ t) :
    (runUntilFor n t l).now = t := by
  induction n generalizing l with
  | zero => simp [runUntilFor, moveTo, later]
  | succ n ih =>
    simp only [runUntilFor]
    have same := now_settle l
    split
    next wake _ =>
      split
      · exact ih _ (by simp only [moveTo, same]; omega)
      · simp [moveTo, same, later]
    next => simp [moveTo, same, later]

/-- Time passes until the moment asked for. -/
theorem now_runUntil (t : Nat) (l : PollLoop σ) : (l.runUntil t).now = max l.now t := by
  unfold runUntil
  split
  · omega
  · rw [now_runUntilFor _ _ _ (by omega)]
    omega

theorem now_sleep (ms : Nat) (l : PollLoop σ) : (l.sleep ms).now = l.now + ms := by
  rw [sleep, now_runUntil]
  omega

/-- More stops than milliseconds make no difference. -/
theorem runUntilFor_eq (m n t : Nat) (l : PollLoop σ) (early : l.now < t) (hm : t - l.now ≤ m)
    (hn : t - l.now ≤ n) : runUntilFor m t l = runUntilFor n t l := by
  induction m generalizing l n with
  | zero => omega
  | succ m ih =>
    cases n with
    | zero => omega
    | succ n =>
      simp only [runUntilFor]
      split
      next wake wakes =>
        split
        next =>
          have later := now_lt_of_wake? (move?_settle l) wakes
          rw [now_settle] at later
          have moved : (l.settle.moveTo wake).now = wake := by
            simp only [moveTo, now_settle]
            omega
          exact ih n _ (by omega) (by omega) (by omega)
        next => rfl
      next => rfl

end Time

/-! ## Waiting for the loop -/

/-- A settled loop with commands queued is in a tick, or has ended. -/
theorem ticking_of_queued {l : PollLoop σ} (waits : l.move? = none) (queued : l.queue ≠ [])
    (goes : l.hasEnded = false) : ∃ wake tick, l.phase = .ticking wake tick := by
  cases phase : l.phase with
  | ended => simp [hasEnded, phase] at goes
  | ticking wake tick => exact ⟨wake, tick, rfl⟩
  | between =>
    rw [move?_between l phase] at waits
    split at waits
    · cases waits
    next none => exact absurd none queued

section Wait

variable [Channel σ]

/-- A condition that is reached by settling is reached. -/
theorem runWhileNot_of_settle (done : PollLoop σ → Bool) (n : Nat) (l : PollLoop σ)
    (settled : done l.settle = true) : done (runWhileNot done n l) = true := by
  cases n <;> simp [runWhileNot, settled]

/-- A condition is reached if, short of it, a settled loop is in a tick and has commands queued.  No
other tick starts then, so each stop brings the one under way nearer to its end, and there are not
more stops than that has left.  `keeps` is whatever is known of the loop and not changed by moves
and time. -/
theorem runWhileNot_reaches (done : PollLoop σ → Bool) (keeps : PollLoop σ → Prop)
    (perform : ∀ l m, keeps l → l.move? = some m → keeps (l.perform m))
    (move : ∀ l t, keeps l → keeps (moveTo l t))
    (busy : ∀ l, keeps l → l.move? = none → done l = false →
      l.queue ≠ [] ∧ ∃ wake tick, l.phase = .ticking wake tick)
    (n : Nat) (l : PollLoop σ) (start : keeps l)
    (enough : l.settle.queue ≠ [] → phaseWork l.settle.phase ≤ n) :
    done (runWhileNot done n l) = true := by
  induction n generalizing l with
  | zero =>
    refine runWhileNot_of_settle done 0 l ?_
    cases reached : done l.settle with
    | true => rfl
    | false =>
      obtain ⟨queued, wake, tick, phase⟩ :=
        busy _ (settle_induction l start perform) (move?_settle l) reached
      have := enough queued
      simp only [phase, phaseWork] at this
      omega
  | succ n ih =>
    cases reached : done l.settle with
    | true => exact runWhileNot_of_settle done _ l reached
    | false =>
      have kept := settle_induction l start perform
      obtain ⟨queued, wake, tick, phase⟩ := busy _ kept (move?_settle l) reached
      have wakes : l.settle.wake? = some wake := by simp [wake?, phase]
      simp only [runWhileNot, reached, wakes]
      refine ih _ (move _ _ kept) fun still => ?_
      have less := phaseWork_settle_lt (l.settle.moveTo wake) phase (Nat.le_max_right _ _) still
      have before := enough queued
      have same : (l.settle.moveTo wake).phase = l.settle.phase := rfl
      rw [same] at less
      omega

theorem phaseWork_settle_le (l : PollLoop σ) (queued : l.settle.queue ≠ []) :
    phaseWork l.settle.phase ≤ l.patience := phaseWork_settleFor_le _ l queued

/-- Who waits for room finds it, unless the loop ends. -/
theorem isReady_runWhileNot (l : PollLoop σ) :
    (runWhileNot isReady l.patience l).isReady = true := by
  refine runWhileNot_reaches isReady (fun _ => True) (fun _ _ _ _ => trivial)
    (fun _ _ _ => trivial) (fun l _ waits short => ?_) l.patience l trivial (phaseWork_settle_le l)
  simp only [isReady, Bool.or_eq_false_iff, hasRoom, decide_eq_false_iff_not] at short
  have queued : l.queue ≠ [] := fun none => short.1 (by simp [none, capacity])
  exact ⟨queued, ticking_of_queued waits queued short.2⟩

/-- Who has waited for room has found it, unless the loop has ended. -/
theorem isReady_awaitRoom (l : PollLoop σ) : l.awaitRoom.isReady = true := by
  unfold awaitRoom
  split
  · assumption
  · exact isReady_runWhileNot l

/-- A shutdown that is queued stays queued until it ends the loop. -/
theorem shutdown_mem_or_hasEnded (l : PollLoop σ) (m : Move)
    (before : .shutdown ∈ l.queue ∨ l.hasEnded = true) (made : l.move? = some m) :
    .shutdown ∈ (l.perform m).queue ∨ (l.perform m).hasEnded = true := by
  have entry := of_move? made
  have goes : l.hasEnded = false := by
    cases m with
    | take c => simp [hasEnded, entry.1]
    | finish => simp [hasEnded, entry.1]
    | startTick => simp [hasEnded, entry.1]
    | goOn tick =>
      obtain ⟨wake, phase, _⟩ := entry
      simp [hasEnded, phase]
  have queued : .shutdown ∈ l.queue := before.resolve_right (by simp [goes])
  cases m with
  | take c =>
    obtain ⟨phase, rest, queue⟩ := entry
    by_cases last : c = .shutdown
    · exact .inr (by simp [perform, take, record, hasEnded, last])
    · refine .inl ?_
      rw [queue, List.mem_cons] at queued
      simpa [perform, take, record, queue] using queued.resolve_left (Ne.symm last)
  | finish => exact .inr rfl
  | startTick | goOn => exact .inl queued

/-- Who shuts the loop down sees it end. -/
theorem hasEnded_shutdown (l : PollLoop σ) (reachable : l.isOutOfReach = false) :
    l.shutdown.hasEnded = true := by
  have queued : .shutdown ∈ (l.send .shutdown).queue ∨ (l.send .shutdown).hasEnded = true := by
    simp only [send, reachable, Bool.false_eq_true, if_false]
    split
    next ended => exact .inr ended
    next => exact .inl (by simp [enqueue])
  simp only [shutdown, reachable, Bool.false_eq_true, if_false]
  refine runWhileNot_reaches hasEnded (fun l => .shutdown ∈ l.queue ∨ l.hasEnded = true)
    shutdown_mem_or_hasEnded (fun _ _ kept => kept) (fun l kept waits goes => ?_) _ _
    queued (phaseWork_settle_le _)
  have nonempty := List.ne_nil_of_mem (kept.resolve_right (by simp [goes]))
  exact ⟨nonempty, ticking_of_queued waits nonempty goes⟩

end Wait

end DaemonWatch.PollLoop
