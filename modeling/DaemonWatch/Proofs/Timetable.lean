/-
  When ticks start.

  An epoch opens when the loop is started, or when a paused loop hears that the daemon is back
  (`Opens`).  It lasts until the loop hears that the daemon is dead, or ends.  Within an epoch the
  starts of ticks are known beforehand, up to how long the ticks themselves take.

  1. **Specification.**  The first tick of an epoch starts one period after the opening.  A tick
     that has started at `s` and ended at `e` is followed by one at the first point of the grid
     after `s` (`slotAfter`), or at `e` when that point has gone by; the grid is that of whole
     periods since the opening.  A `Timetable` says so of the starts and ends of ticks in turn, and
     knows nothing of the loop.  Ticks never overlap, however long they take.

  2. **The ticker.**  A ticker that is due on the grid and fires then or later is due next at the
     first point of the grid after it has fired (`Ticker.due_fire`).  A tick that fires within the
     grace keeps the plain sum; that this is the same point is where the grace has to be shorter
     than the period.

  3. **The crux (`AtStage`)**: at each stage of an epoch the loop runs, its ticker is due on the
     grid, and a loop that waits starts its tick at the later one of now and the time at which the
     ticker is due.  One happening leads from stage to stage along the timetable: from a loop that
     waits (`AtStage.step_waiting`) and from one in a tick (`AtStage.step_ticking`).
     `AtStage.course` is the induction over them.  Word that the daemon is back does not matter
     here: it sets the ticker up anew only for a paused loop.

  4. **What follows from a timetable alone**: there are no more ticks than whole periods
     (`Timetable.length_starts_le`), no two start in the same period (`Timetable.pairwise_starts`),
     and a tick starts on the grid or at the end of the one before (`Timetable.on_grid_or_ended`).
     `tick_timing` puts them together.
-/
import DaemonWatch.Proofs.Course
import DaemonWatch.Rehearsal

namespace DaemonWatch

/-! ## Timetables -/

/-- How far an epoch is: it waits for the tick that starts at a time, or is in the tick that has
started at a time. -/
inductive Stage
  | waiting (t : Nat)
  | ticking (s : Nat)
  deriving Repr, DecidableEq

/-- The first point of an epoch's grid after a time. -/
def slotAfter (period opening s : Nat) : Nat := opening + period * ((s - opening) / period + 1)

/-- The starts and ends of ticks that take an epoch from one stage to another.  A tick starts just
when it is waited for.  The next one is waited for until the end of this one or the next point of
the grid behind its start, whichever is later, so a long tick leaves points out and a short one does
not bring the next forward. -/
inductive Timetable (period opening : Nat) : Stage → Chronicle → Stage → Prop
  | nil (g : Stage) : Timetable period opening g [] g
  | start {t : Nat} {hs : Chronicle} {g : Stage} (rest : Timetable period opening (.ticking t) hs g) :
      Timetable period opening (.waiting t) ((t, .tickStarted) :: hs) g
  | stop {s e : Nat} {hs : Chronicle} {g : Stage} (later : s ≤ e)
      (rest : Timetable period opening (.waiting (max e (slotAfter period opening s))) hs g) :
      Timetable period opening (.ticking s) ((e, .tickEnded) :: hs) g

namespace Happening

/-- Whether a tick starts or ends. -/
def isTickEdge : Happening → Bool
  | tickStarted | tickEnded => true
  | _ => false

/-- Whether an epoch ends. -/
def endsEpoch : Happening → Bool
  | taken .daemonDead | taken .shutdown | finished => true
  | _ => false

end Happening

namespace Chronicle

/-- The starts and ends of ticks. -/
def ticks (hs : Chronicle) : Chronicle := hs.filter (·.2.isTickEdge)

theorem starts_ticks (hs : Chronicle) : hs.ticks.starts = hs.starts := by
  unfold starts ticks
  rw [List.filter_filter]
  congr 2
  funext h
  by_cases start : h.2 = .tickStarted <;> simp [start, Happening.isTickEdge]

end Chronicle

/-- A point of the grid that is whole periods further on. -/
theorem slotAfter_sub_div {period : Nat} (period_pos : 0 < period) (opening s : Nat) :
    (slotAfter period opening s - opening) / period = (s - opening) / period + 1 := by
  rw [slotAfter, Nat.add_sub_cancel_left, Nat.mul_div_cancel_left _ period_pos]

/-- The first point of the grid after a time, or any later time, lies in a later period. -/
theorem slot_lt_slot_max {period : Nat} (period_pos : 0 < period) (opening s e : Nat) :
    (s - opening) / period < (max e (slotAfter period opening s) - opening) / period := by
  rw [← Nat.add_one_le_iff, ← slotAfter_sub_div period_pos]
  exact Nat.div_le_div_right (Nat.sub_le_sub_right (Nat.le_max_right _ _) opening)

/-- A ticker that is due on the grid, and fires then or later, is due next at the first point of the
grid after it has fired. -/
theorem Ticker.due_fire (t : Ticker) (wide : grace < t.period) {opening k now : Nat}
    (grid : t.due = opening + t.period * k) (late : t.due ≤ now) :
    (t.fire now).due = slotAfter t.period opening now := by
  obtain ⟨x, rfl⟩ := Nat.exists_eq_add_of_le late
  have passed : t.due + x - opening = t.period * k + x := by omega
  have periods : (t.period * k + x) / t.period = k + x / t.period :=
    Nat.mul_add_div t.period_pos k x
  have rest := Nat.div_add_mod x t.period
  have spread : t.period * (k + x / t.period + 1) =
      t.period * k + t.period * (x / t.period) + t.period := by
    rw [Nat.mul_add, Nat.mul_add, Nat.mul_one]
  unfold slotAfter fire
  rw [passed, periods, spread, Nat.add_sub_cancel_left]
  split
  next soon =>
    -- Within the grace no point of the grid has gone by.
    have none : x / t.period = 0 := Nat.div_eq_of_lt (by omega)
    simp only [none, Nat.mul_zero]
    omega
  next => simp only; omega

namespace Timetable

variable {period opening : Nat} {g g' : Stage} {hs : Chronicle}

theorem append {g'' : Stage} {ks : Chronicle} (table : Timetable period opening g hs g')
    (more : Timetable period opening g' ks g'') : Timetable period opening g (hs ++ ks) g'' := by
  induction table with
  | nil => exact more
  | start _ ih => exact .start (ih more)
  | stop later _ ih => exact .stop later (ih more)

/-- Up to a time that no start or end of a tick exceeds, at most one tick has started in each whole
period since the opening. -/
theorem length_starts_le (period_pos : 0 < period) (table : Timetable period opening g hs g')
    (now : Nat) (past : ∀ h ∈ hs, h.1 ≤ now) (n : Nat) (before : n ≤ (now - opening) / period)
    (stage : match g with
      | .waiting t => n + 1 ≤ (t - opening) / period
      | .ticking s => n ≤ (s - opening) / period) :
    n + hs.starts.length ≤ (now - opening) / period := by
  induction table generalizing n with
  | nil => exact before
  | @start t hs g rest ih =>
    have here : t ≤ now := past (t, .tickStarted) List.mem_cons_self
    have grown : (t - opening) / period ≤ (now - opening) / period :=
      Nat.div_le_div_right (Nat.sub_le_sub_right here opening)
    have counted := ih (fun h mem => past h (List.mem_cons_of_mem _ mem)) (n + 1)
      (Nat.le_trans stage grown) stage
    rw [Chronicle.starts_cons, if_pos rfl, List.singleton_append, List.length_cons]
    omega
  | @stop s e hs g later rest ih =>
    have passed := slot_lt_slot_max period_pos opening s e
    have counted := ih (fun h mem => past h (List.mem_cons_of_mem _ mem)) n before
      (Nat.le_trans (Nat.succ_le_succ stage) passed)
    simpa using counted

/-- No two ticks start within the same period: those that were missed come to one at most. -/
theorem pairwise_starts (period_pos : 0 < period) (table : Timetable period opening g hs g') :
    hs.starts.Pairwise (fun s t => (s - opening) / period < (t - opening) / period) ∧
      ∀ t ∈ hs.starts, match g with
        | .waiting next => (next - opening) / period ≤ (t - opening) / period
        | .ticking s => (s - opening) / period < (t - opening) / period := by
  induction table with
  | nil => exact ⟨.nil, by simp⟩
  | @start t hs g rest ih =>
    obtain ⟨apart, after⟩ := ih
    rw [Chronicle.starts_cons, if_pos rfl, List.singleton_append]
    refine ⟨.cons after apart, ?_⟩
    intro u mem
    rcases List.mem_cons.mp mem with rfl | later
    · exact Nat.le_refl _
    · exact Nat.le_of_lt (after u later)
  | @stop s e hs g later rest ih =>
    obtain ⟨apart, after⟩ := ih
    refine ⟨by simpa using apart, ?_⟩
    intro u mem
    have reached := after u (by simpa using mem)
    exact Nat.lt_of_lt_of_le (slot_lt_slot_max period_pos opening s e) reached

/-- A tick starts on the grid or at the end of the tick before it.  Along the table `ends` collects
the ends of the ticks so far, since the tick that is waited for may start at one of them. -/
theorem on_grid_or_ended (table : Timetable period opening g hs g') (ends : List Nat)
    (stage : match g with
      | .waiting t => (∃ k, t = opening + period * k) ∨ t ∈ ends
      | .ticking _ => True)
    (t : Nat) (mem : t ∈ hs.starts) :
    (∃ k, t = opening + period * k) ∨ t ∈ ends ∨ (t, .tickEnded) ∈ hs := by
  induction table generalizing ends with
  | nil => cases mem
  | @start t' hs g rest ih =>
    rw [Chronicle.starts_cons, if_pos rfl, List.singleton_append, List.mem_cons] at mem
    rcases mem with rfl | later
    · rcases stage with grid | ended
      · exact .inl grid
      · exact .inr (.inl ended)
    · rcases ih ends trivial later with grid | ended | mem
      · exact .inl grid
      · exact .inr (.inl ended)
      · exact .inr (.inr (List.mem_cons_of_mem _ mem))
  | @stop s e hs g later rest ih =>
    have next : (∃ k, max e (slotAfter period opening s) = opening + period * k) ∨
        max e (slotAfter period opening s) ∈ e :: ends := by
      rcases Nat.le_total e (slotAfter period opening s) with early | late
      · exact .inl ⟨_, Nat.max_eq_right early⟩
      · rw [Nat.max_eq_left late]
        exact .inr List.mem_cons_self
    rcases ih (e :: ends) next (by simpa using mem) with grid | ended | mem
    · exact .inl grid
    · rcases List.mem_cons.mp ended with rfl | ended
      · exact .inr (.inr List.mem_cons_self)
      · exact .inr (.inl ended)
    · exact .inr (.inr (List.mem_cons_of_mem _ mem))

end Timetable

namespace PollLoop

variable {σ : Type} [Channel σ] {period opening : Nat} {l l' l₀ : PollLoop σ} {h : Happening}
  {hs : Chronicle} {g : Stage}

/-! ## Epochs -/

/-- An epoch opens when a punctual loop is started, and when it resumes after a pause.  At both
moments the ticker is set up anew, so no epoch knows of the ticks of another. -/
inductive Opens (first : PollLoop σ) : PollLoop σ → Prop
  | start : Opens first first
  | resume {l : PollLoop σ} {hs : Chronicle} (run : Course punctual first hs l)
      (paused : l.liveness = .paused) (back : l.move? = some (.take .daemonRestarted)) :
      Opens first (l.take .daemonRestarted)

/-- What holds of a loop at a stage of an epoch: it runs, its ticker is due on the grid, and it
starts the tick for which it waits at the later one of now and the time at which the ticker is
due. -/
structure AtStage (period opening : Nat) (g : Stage) (l : PollLoop σ) : Prop where
  running : l.liveness = .running
  period_eq : l.ticker.period = period
  grid : ∃ k, l.ticker.due = opening + period * k
  phase : match g with
    | .waiting t => l.phase = .between ∧ max l.now l.ticker.due = t
    | .ticking s => (∃ wake tick, l.phase = .ticking wake tick) ∧ s ≤ l.now ∧
        l.ticker.due = slotAfter period opening s

/-- The period never changes. -/
theorem period_course {pace : Pace σ} (run : Course pace l hs l') :
    l'.ticker.period = l.ticker.period := by
  refine run.preserves (fun k => k.ticker.period = l.ticker.period) ?_ rfl
  intro k h k' same step
  rw [← same]
  cases step with
  | @move m made =>
    cases m with
    | take c => simp only [perform, take]; split <;> rfl
    | finish | startTick | goOn => rfl
  | accept | abandon | adjust | pass => rfl

/-- At its opening an epoch waits for a tick that starts one period later. -/
theorem AtStage.of_opens {wide : 0 < period} {s : Station σ}
    (opens : Opens (start period wide s) l₀) :
    AtStage period l₀.now (.waiting (l₀.now + period)) l₀ := by
  cases opens with
  | start => exact ⟨rfl, rfl, ⟨1, by simp [start]⟩, rfl, by simp [start]⟩
  | @resume l hs run paused back =>
    have same : l.ticker.period = period := period_course run
    have resumes : l.liveness.resumesOn .daemonRestarted = true := by simp [Liveness.resumesOn, paused]
    have due : (l.take .daemonRestarted).ticker.due = l.now + period := by
      simp [take, record, resumes, Ticker.restart, same]
    have now : (l.take .daemonRestarted).now = l.now := rfl
    refine ⟨rfl, ?_, ⟨1, ?_⟩, (of_move? back).1, ?_⟩
    · simp [take, record, resumes, Ticker.restart, same]
    · rw [due, now, Nat.mul_one]
    · rw [due, now]
      omega

/-- While the loop waits, only what ends the epoch, or the start of a tick, takes it to another
stage: the tick starts at the time for which the loop has waited. -/
theorem AtStage.step_waiting (wide : Ticker.grace < period) {t : Nat}
    (here : AtStage period opening (.waiting t) l) (step : Occurs punctual l h l')
    (goes : h.endsEpoch = false) :
    ∃ g, AtStage period opening g l' ∧
      Timetable period opening (.waiting t) (Chronicle.ticks [(l.now, h)]) g := by
  obtain ⟨running, period_eq, ⟨k, grid⟩, phase, next⟩ := here
  cases step with
  | @move m made =>
    have entry := of_move? made
    cases m with
    | take c =>
      cases c with
      | daemonDead | shutdown => cases goes
      | daemonRestarted =>
        -- The loop runs already, so its ticker stays as it is.
        have same : (l.take .daemonRestarted).ticker = l.ticker := by
          simp [take, record, Liveness.resumesOn, running]
        refine ⟨.waiting t, ⟨rfl, ?_, ⟨k, ?_⟩, ?_, ?_⟩, .nil _⟩
        · show (l.take .daemonRestarted).ticker.period = period
          rw [same, period_eq]
        · show (l.take .daemonRestarted).ticker.due = _
          rw [same, grid]
        · exact phase
        · show max l.now (l.take .daemonRestarted).ticker.due = t
          rw [same, next]
    | finish => cases goes
    | startTick =>
      have due : l.ticker.due ≤ l.now := entry.2.2
      have now : l.now = t := by omega
      have fired : (l.ticker.fire l.now).due = slotAfter period opening l.now := by
        rw [← period_eq] at wide grid ⊢
        exact l.ticker.due_fire wide grid due
      refine ⟨.ticking l.now, ⟨running, period_eq, ⟨_, fired⟩, ?_, Nat.le_refl _, fired⟩, ?_⟩
      · exact ⟨l.now, .start, rfl⟩
      · rw [← now]
        exact .start (.nil _)
    | goOn tick =>
      obtain ⟨wake, ticking, _⟩ := entry
      rw [phase] at ticking
      cases ticking
  | accept | abandon | adjust =>
    exact ⟨.waiting t, ⟨running, period_eq, ⟨k, grid⟩, phase, next⟩, .nil _⟩
  | pass t' may =>
    have wakes : l.wake? = some l.ticker.due := by
      simp [wake?, phase, Liveness.isRunning, running]
    have early : t' ≤ l.ticker.due := may.2 _ wakes
    refine ⟨.waiting t, ⟨running, period_eq, ⟨k, grid⟩, phase, ?_⟩, .nil _⟩
    show max (max l.now t') l.ticker.due = t
    omega

/-- In a tick, only its end takes the loop to another stage: it waits for the first point of the
grid after the start of the tick, or for now when that point has gone by. -/
theorem AtStage.step_ticking {s : Nat} (here : AtStage period opening (.ticking s) l)
    (step : Occurs punctual l h l') :
    ∃ g, AtStage period opening g l' ∧
      Timetable period opening (.ticking s) (Chronicle.ticks [(l.now, h)]) g := by
  obtain ⟨running, period_eq, grid, ⟨wake, tick, phase⟩, since, due⟩ := here
  cases step with
  | @move m made =>
    have entry := of_move? made
    cases m with
    | take | finish | startTick =>
      rw [phase] at entry
      cases entry.1
    | goOn tick' =>
      cases next : (tick'.step l.now l.station).next with
      | some n =>
        have told : l.tell (.goOn tick') = .tickWentOn := by simp [tell, next]
        rw [told]
        refine ⟨.ticking s, ⟨running, period_eq, grid, ⟨l.now + n.1, n.2, ?_⟩, since, due⟩, .nil _⟩
        simp [perform, goOn, next]
      | none =>
        have told : l.tell (.goOn tick') = .tickEnded := by simp [tell, next]
        rw [told]
        refine ⟨.waiting (max l.now (slotAfter period opening s)),
          ⟨running, period_eq, grid, ?_, ?_⟩, .stop since (.nil _)⟩
        · simp [perform, goOn, next]
        · show max l.now l.ticker.due = _
          rw [due]
  | accept | abandon | adjust =>
    exact ⟨.ticking s, ⟨running, period_eq, grid, ⟨wake, tick, phase⟩, since, due⟩, .nil _⟩
  | pass t may =>
    have later : s ≤ max l.now t := Nat.le_trans since (Nat.le_max_left _ _)
    exact ⟨.ticking s, ⟨running, period_eq, grid, ⟨wake, tick, phase⟩, later, due⟩, .nil _⟩

/-- Within an epoch a punctual loop keeps to the timetable. -/
theorem AtStage.course (wide : Ticker.grace < period) (here : AtStage period opening g l)
    (run : Course punctual l hs l') (unbroken : ∀ h ∈ hs.kinds, h.endsEpoch = false) :
    ∃ g', AtStage period opening g' l' ∧ Timetable period opening g hs.ticks g' := by
  induction run generalizing g with
  | nil => exact ⟨g, here, .nil g⟩
  | @cons l l₁ _ h hs first rest ih =>
    have goes := unbroken h List.mem_cons_self
    obtain ⟨g₁, next, edge⟩ : ∃ g₁, AtStage period opening g₁ l₁ ∧
        Timetable period opening g (Chronicle.ticks [(l.now, h)]) g₁ := by
      cases g with
      | waiting t => exact here.step_waiting wide first goes
      | ticking s => exact here.step_ticking first
    obtain ⟨g', last, table⟩ := ih next fun k mem => unbroken k (List.mem_cons_of_mem _ mem)
    refine ⟨g', last, ?_⟩
    have split : Chronicle.ticks ((l.now, h) :: hs) =
        Chronicle.ticks [(l.now, h)] ++ hs.ticks := List.filter_append [(l.now, h)] hs
    rw [split]
    exact edge.append table

/-! ## When ticks start -/

/-- **Tick timing.**  In an epoch of a punctual loop, ticks start and end by the timetable that
begins one period after the opening, whatever else happens, a further word that the daemon is
back included.  While the loop waits, its next tick starts at the time that the timetable gives,
not earlier, and time does not pass beyond without it.  There have been no more ticks than whole
periods, and no two in the same period; and a tick that does not start on the grid starts at the
end of the one before. -/
theorem tick_timing (wide : Ticker.grace < period) (s : Station σ)
    (opens : Opens (start period (Nat.zero_lt_of_lt wide) s) l₀)
    (run : Course punctual l₀ hs l) (unbroken : ∀ h ∈ hs.kinds, h.endsEpoch = false) :
    (∃ g, Timetable period l₀.now (.waiting (l₀.now + period)) hs.ticks g ∧
      match g with
      | .waiting t =>
        l.isTicking = false ∧ l.now ≤ t ∧
          (l.move? = some .startTick ↔ l.now = t ∧ l.queue = [] ∧ l.abandoned = false)
      | .ticking s => l.isTicking = true ∧ s ≤ l.now) ∧
    hs.starts.length ≤ (l.now - l₀.now) / period ∧
    hs.starts.Pairwise (fun s t => (s - l₀.now) / period < (t - l₀.now) / period) ∧
    ∀ t ∈ hs.starts, (∃ k, t = l₀.now + period * k) ∨ (t, .tickEnded) ∈ hs := by
  have period_pos : 0 < period := Nat.zero_lt_of_lt wide
  obtain ⟨g, here, table⟩ := (AtStage.of_opens opens).course wide run unbroken
  refine ⟨⟨g, table, ?_⟩, ?_, ?_, ?_⟩
  · obtain ⟨running, _, _, phase⟩ := here
    cases g with
    | waiting t =>
      obtain ⟨between, next⟩ := phase
      refine ⟨by simp [isTicking, between], by omega, ?_⟩
      rw [move?_eq_startTick_iff]
      constructor
      · rintro ⟨_, queue, kept, _, due⟩
        exact ⟨by omega, queue, kept⟩
      · rintro ⟨now, queue, kept⟩
        exact ⟨between, queue, kept, running, by omega⟩
    | ticking s =>
      obtain ⟨⟨wake, tick, ticking⟩, since, _⟩ := phase
      exact ⟨by simp [isTicking, ticking], since⟩
  · have past : ∀ h ∈ hs.ticks, h.1 ≤ l.now := fun h mem =>
      run.time_le h (List.mem_filter.mp mem).1
    have first : 0 + 1 ≤ (l₀.now + period - l₀.now) / period :=
      Nat.div_pos (by omega) period_pos
    have counted := table.length_starts_le period_pos l.now past 0 (Nat.zero_le _) first
    rwa [Nat.zero_add, Chronicle.starts_ticks] at counted
  · rw [← Chronicle.starts_ticks]
    exact (table.pairwise_starts period_pos).1
  · intro t mem
    rw [← Chronicle.starts_ticks] at mem
    have first : (∃ k, l₀.now + period = l₀.now + period * k) ∨ l₀.now + period ∈ ([] : List Nat) :=
      .inl ⟨1, by rw [Nat.mul_one]⟩
    rcases table.on_grid_or_ended [] first t mem with grid | none | ended
    · exact .inl grid
    · cases none
    · exact .inr (List.mem_filter.mp ended).1

/-- With a period of 10 ms, a first tick from 10 to 35, word during it that the daemon is back, an
overdue tick at 35, and then a wait until 40. -/
theorem tick_timing_overdue : ∃ hs l,
    Course punctual (start 10 (by decide)
      { channel := ({ connected := false, connections := [true],
                      events := [⟨.error (.emptyReply "events"), 25⟩] } : Rehearsal) }) hs l ∧
      hs.taken = [.daemonRestarted] ∧
      hs.ticks = [(10, .tickStarted), (35, .tickEnded), (35, .tickStarted), (35, .tickEnded)] ∧
      l.move? = some .startTick ∧ l.now = 40 ∧ (∃ g, Timetable 10 0 (.waiting 10) hs.ticks g) ∧
      hs.starts.length ≤ (l.now - 0) / 10 := by
  have run : Course punctual (start 10 (by decide)
      { channel := ({ connected := false, connections := [true],
                      events := [⟨.error (.emptyReply "events"), 25⟩] } : Rehearsal) }) _ _ :=
    .cons (.pass 10 (punctual_of_wake rfl rfl (by decide))) <|
    .cons (.move rfl) <| .cons (.move rfl) <| .cons (.accept .daemonRestarted rfl rfl) <|
    .cons (.pass 35 (punctual_of_wake rfl rfl (by decide))) <|
    .cons (.move rfl) <| .cons (.move rfl) <| .cons (.move rfl) <| .cons (.move rfl) <|
    .cons (.move rfl) <| .cons (.move rfl) <| .cons (.move rfl) <| .cons (.move rfl) <|
    .cons (.move rfl) <| .cons (.move rfl) <|
    .cons (.pass 40 (punctual_of_wake rfl rfl (by decide))) <| .nil _
  obtain ⟨⟨g, table, _⟩, count, _⟩ := tick_timing (by decide) _ .start run (by decide)
  exact ⟨_, _, run, rfl, rfl, rfl, rfl, ⟨g, table⟩, count⟩

end PollLoop

end DaemonWatch
