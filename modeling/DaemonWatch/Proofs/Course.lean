/-
  Everything that a poll loop can go through.

  What is proved of a poll loop is proved of all its runs, whatever its owner does and whenever.  So
  the runs are what comes first.

  1. **Happenings.**  The loop makes a move, its owner gets a command accepted or gives the handle
     up, the surroundings of the loop change, or time passes: `Occurs` has one case for each.  When
     time may pass is up to a `Pace`.  `anyPace` lets it pass whenever it likes; a `punctual` loop
     lets it pass only while it has to wait, and only up to the moment at which it wakes up.

  2. **Courses.**  A `Course` is a sequence of happenings, and its `Chronicle` tells what they were
     and when.  Courses are put together and taken apart (`Course.append`, `Course.split`,
     `Course.exists_of_mem`), and what every happening keeps is kept by a course
     (`Course.preserves`).  All else about courses is a fact about one happening and one of these.

  3. **Commands.**  The crux is `Occurs.queue`: a command joins the queue behind all others when it
     is accepted and leaves it in front of all others when it is taken.  So what was queued at first
     and what was accepted since is, in this order, what was taken and what is still queued
     (`queue_course`); and the liveness is the fold of the commands taken (`liveness_course`).

  4. **Ticks.**  Only a tick has effects: outside of one nothing is given off, and the station
     changes with the surroundings alone (`Occurs.timedEffects`, `Occurs.station`).  So a loop that
     starts no tick has no effects (`Course.effects_of_not_isTicking`).

  5. **The end.**  A loop that has taken a shutdown, or has seen its handle gone, has ended
     (`hasEnded_of_shutdown_mem`, `hasEnded_of_finished_mem`), and an ended loop takes no command,
     starts no tick and gives nothing off (`Course.of_hasEnded`).

  6. **Bridge to the handle.**  What its owner can ask for is a course: sleeping, sending a command
     and shutting down are punctual ones (`course_sleep`, `course_send`, `course_shutdown`).  What
     is proved of courses therefore holds of everything that is done with a handle.
-/
import DaemonWatch.PollLoop.Settling

namespace DaemonWatch

/-! ## Happenings -/

/-- Something that a loop does, or that happens to it.  The first three come from outside: its owner
has a command accepted, gives the handle up, or changes the surroundings of the station. -/
inductive Happening
  | accepted (c : Command)
  | abandoned
  | adjusted
  | passed
  | taken (c : Command)
  | finished
  | tickStarted
  | tickWentOn
  | tickEnded
  deriving Repr, DecidableEq

namespace Happening

/-- The command that is accepted. -/
def accepted? : Happening → Option Command
  | accepted c => some c
  | _ => none

/-- The command that is taken. -/
def taken? : Happening → Option Command
  | taken c => some c
  | _ => none

/-- Whether it is the doing of the loop and of the time alone. -/
def isInner : Happening → Bool
  | accepted _ | abandoned | adjusted => false
  | passed | taken _ | finished | tickStarted | tickWentOn | tickEnded => true

end Happening

/-- Happenings with the times at which they come about. -/
abbrev Chronicle := List (Nat × Happening)

namespace Chronicle

/-- The commands accepted, in order. -/
def accepted (hs : Chronicle) : List Command := hs.filterMap (·.2.accepted?)

/-- The commands taken, in order. -/
def taken (hs : Chronicle) : List Command := hs.filterMap (·.2.taken?)

/-- The times at which ticks start. -/
def starts (hs : Chronicle) : List Nat := (hs.filter (·.2 = .tickStarted)).map (·.1)

/-- What has happened, without the times. -/
def kinds (hs : Chronicle) : List Happening := hs.map (·.2)

/-- That nobody does anything but the loop and the time. -/
def IsUndisturbed (hs : Chronicle) : Prop := ∀ h ∈ hs, h.2.isInner = true

@[simp] theorem accepted_nil : accepted [] = [] := rfl

@[simp] theorem taken_nil : taken [] = [] := rfl

@[simp] theorem starts_nil : starts [] = [] := rfl

@[simp] theorem kinds_nil : kinds [] = [] := rfl

@[simp] theorem accepted_cons (t : Nat) (h : Happening) (hs : Chronicle) :
    accepted ((t, h) :: hs) = h.accepted?.toList ++ accepted hs := by
  unfold accepted
  rw [List.filterMap_cons]
  cases h.accepted? <;> rfl

@[simp] theorem taken_cons (t : Nat) (h : Happening) (hs : Chronicle) :
    taken ((t, h) :: hs) = h.taken?.toList ++ taken hs := by
  unfold taken
  rw [List.filterMap_cons]
  cases h.taken? <;> rfl

@[simp] theorem starts_cons (t : Nat) (h : Happening) (hs : Chronicle) :
    starts ((t, h) :: hs) = (if h = .tickStarted then [t] else []) ++ starts hs := by
  unfold starts
  by_cases start : h = .tickStarted <;> simp [start]

@[simp] theorem kinds_cons (t : Nat) (h : Happening) (hs : Chronicle) :
    kinds ((t, h) :: hs) = h :: kinds hs := rfl

@[simp] theorem accepted_append (hs ks : Chronicle) :
    accepted (hs ++ ks) = accepted hs ++ accepted ks := List.filterMap_append

@[simp] theorem taken_append (hs ks : Chronicle) : taken (hs ++ ks) = taken hs ++ taken ks :=
  List.filterMap_append

@[simp] theorem kinds_append (hs ks : Chronicle) : kinds (hs ++ ks) = kinds hs ++ kinds ks :=
  List.map_append

theorem isUndisturbed_nil : IsUndisturbed [] := List.forall_mem_nil _

theorem IsUndisturbed.cons {t : Nat} {h : Happening} {hs : Chronicle} (inner : h.isInner = true)
    (rest : IsUndisturbed hs) : IsUndisturbed ((t, h) :: hs) :=
  List.forall_mem_cons.mpr ⟨inner, rest⟩

theorem IsUndisturbed.append {hs ks : Chronicle} (first : IsUndisturbed hs)
    (rest : IsUndisturbed ks) : IsUndisturbed (hs ++ ks) :=
  List.forall_mem_append.mpr ⟨first, rest⟩

/-- Left alone, a loop accepts no command. -/
theorem IsUndisturbed.accepted_eq {hs : Chronicle} (alone : IsUndisturbed hs) : hs.accepted = [] := by
  refine List.filterMap_eq_nil_iff.mpr fun h mem => ?_
  have inner := alone h mem
  cases kind : h.2 with
  | accepted c => simp [kind, Happening.isInner] at inner
  | _ => rfl

/-- Left alone, a loop keeps its surroundings. -/
theorem IsUndisturbed.adjusted_notMem {hs : Chronicle} (alone : IsUndisturbed hs) :
    .adjusted ∉ hs.kinds := by
  rintro mem
  obtain ⟨h, among, kind⟩ := List.mem_map.mp mem
  have inner := alone h among
  rw [kind] at inner
  cases inner

/-- Ticks have started at some times exactly when the start of a tick is among the happenings. -/
theorem starts_eq_nil_iff (hs : Chronicle) : hs.starts = [] ↔ .tickStarted ∉ hs.kinds := by
  induction hs with
  | nil => simp
  | cons h hs ih =>
    rw [starts_cons, kinds_cons, List.append_eq_nil_iff, ih, List.mem_cons, not_or]
    by_cases start : h.2 = .tickStarted
    · simp [start]
    · simp [start, Ne.symm start]

end Chronicle

namespace PollLoop

variable {σ : Type}

/-! ## Courses -/

/-- When time may pass from now to some moment. -/
abbrev Pace (σ : Type) := PollLoop σ → Nat → Prop

/-- Time passes whenever it likes, also while the loop has something to do. -/
def anyPace : Pace σ := fun _ _ => True

/-- Time passes only while the loop has to wait, and not beyond the moment at which it wakes up. -/
def punctual : Pace σ := fun l t => l.move? = none ∧ ∀ wake, l.wake? = some wake → t ≤ wake

/-- A loop that has to wait may let time pass up to the moment at which it wakes up. -/
theorem punctual_of_wake {l : PollLoop σ} {t wake : Nat} (waits : l.move? = none)
    (wakes : l.wake? = some wake) (early : t ≤ wake) : punctual l t := by
  refine ⟨waits, fun w hw => ?_⟩
  rw [wakes] at hw
  cases hw
  exact early

/-- Whether the loop is in a tick. -/
def isTicking (l : PollLoop σ) : Bool :=
  match l.phase with
  | .ticking .. => true
  | _ => false

/-- The effects given off so far. -/
def effects (l : PollLoop σ) : List Effect := History.effects l.history

/-- What a move is to those who watch. -/
def tell [Channel σ] (l : PollLoop σ) : Move → Happening
  | .take c => .taken c
  | .finish => .finished
  | .startTick => .tickStarted
  | .goOn tick =>
    if (tick.step l.now l.station).next.isSome then .tickWentOn else .tickEnded

/-- One happening that leads from a loop to another. -/
inductive Occurs [Channel σ] (pace : Pace σ) : PollLoop σ → Happening → PollLoop σ → Prop
  | move {l : PollLoop σ} {m : Move} (made : l.move? = some m) :
      Occurs pace l (l.tell m) (l.perform m)
  | accept {l : PollLoop σ} (c : Command) (room : l.hasRoom = true)
      (reachable : l.isOutOfReach = false) : Occurs pace l (.accepted c) (l.enqueue c)
  | abandon (l : PollLoop σ) : Occurs pace l .abandoned l.abandon
  | adjust (l : PollLoop σ) (s : Station σ) : Occurs pace l .adjusted { l with station := s }
  | pass {l : PollLoop σ} (t : Nat) (may : pace l t) : Occurs pace l .passed (l.moveTo t)

/-- Happenings that lead, one after the other, from a loop to another. -/
inductive Course [Channel σ] (pace : Pace σ) : PollLoop σ → Chronicle → PollLoop σ → Prop
  | nil (l : PollLoop σ) : Course pace l [] l
  | cons {l l₁ l₂ : PollLoop σ} {h : Happening} {hs : Chronicle} (first : Occurs pace l h l₁)
      (rest : Course pace l₁ hs l₂) : Course pace l ((l.now, h) :: hs) l₂

variable [Channel σ] {pace : Pace σ} {l l' l₁ l₂ : PollLoop σ} {h : Happening}
  {hs ks : Chronicle}

namespace Course

/-- A course of one happening. -/
theorem single (step : Occurs pace l h l') : Course pace l [(l.now, h)] l' :=
  .cons step (.nil l')

theorem append (run : Course pace l hs l₁) (more : Course pace l₁ ks l₂) :
    Course pace l (hs ++ ks) l₂ := by
  induction run with
  | nil => exact more
  | cons first _ ih => exact .cons first (ih more)

/-- A course of one chronicle and then another is a course of each. -/
theorem split (run : Course pace l (hs ++ ks) l') : ∃ m, Course pace l hs m ∧ Course pace m ks l' := by
  induction hs generalizing l with
  | nil => exact ⟨l, .nil l, run⟩
  | cons h hs ih =>
    cases run with
    | cons first rest =>
      obtain ⟨m, reached, left⟩ := ih rest
      exact ⟨m, .cons first reached, left⟩

/-- What every happening keeps is kept by a whole course. -/
theorem preserves (run : Course pace l hs l') (keeps : PollLoop σ → Prop)
    (step : ∀ {l h l'}, keeps l → Occurs pace l h l' → keeps l') (start : keeps l) : keeps l' := by
  induction run with
  | nil => exact start
  | cons first _ ih => exact ih (step start first)

/-- Time does not go back. -/
theorem now_le (run : Course pace l hs l') : l.now ≤ l'.now := by
  refine run.preserves (fun k => l.now ≤ k.now) ?_ (Nat.le_refl _)
  intro k h k' before step
  cases step with
  | @move m made =>
    rw [now_perform]
    exact before
  | accept | abandon | adjust => exact before
  | pass t may => exact Nat.le_trans before (Nat.le_max_left _ _)

/-- What has happened has happened by now. -/
theorem time_le (run : Course pace l hs l') : ∀ h ∈ hs, h.1 ≤ l'.now := by
  induction run with
  | nil => simp
  | cons first rest ih =>
    intro h mem
    rcases List.mem_cons.mp mem with rfl | later
    · exact (Course.cons first rest).now_le
    · exact ih h later

/-- What has happened has happened at some point of the course. -/
theorem exists_of_mem (run : Course pace l hs l') (mem : h ∈ hs.kinds) :
    ∃ before after m m', hs = before ++ (m.now, h) :: after ∧ Course pace l before m ∧
      Occurs pace m h m' ∧ Course pace m' after l' := by
  induction run with
  | nil => cases mem
  | @cons l l₁ _ k hs first rest ih =>
    rw [Chronicle.kinds_cons, List.mem_cons] at mem
    rcases mem with rfl | later
    · exact ⟨[], hs, l, l₁, rfl, .nil l, first, rest⟩
    · obtain ⟨before, after, m, m', rfl, reached, step, left⟩ := ih later
      exact ⟨(l.now, k) :: before, after, m, m', rfl, .cons first reached, step, left⟩

end Course

/-! ## What is told of a move -/

@[simp] theorem accepted?_tell (l : PollLoop σ) (m : Move) : (l.tell m).accepted? = none := by
  cases m with
  | goOn tick => simp only [tell]; split <;> rfl
  | take | finish | startTick => rfl

/-- A move is the loop's own doing. -/
theorem isInner_tell (l : PollLoop σ) (m : Move) : (l.tell m).isInner = true := by
  cases m with
  | goOn tick => simp only [tell]; split <;> rfl
  | take | finish | startTick => rfl

theorem taken?_tell (l : PollLoop σ) (m : Move) :
    (l.tell m).taken? = match m with
      | .take c => some c
      | _ => none := by
  cases m with
  | goOn tick => simp only [tell]; split <;> rfl
  | take | finish | startTick => rfl

/-- Only the start of a tick is told as one. -/
theorem tell_eq_tickStarted_iff (l : PollLoop σ) (m : Move) :
    l.tell m = .tickStarted ↔ m = .startTick := by
  cases m with
  | goOn tick => simp only [tell]; split <;> simp
  | take | finish | startTick => simp [tell]

/-- A tick starts by the move that starts it. -/
theorem move?_of_tickStarted (step : Occurs pace l .tickStarted l') :
    l.move? = some .startTick ∧ l' = l.startTick := by
  generalize kind : Happening.tickStarted = h at step
  cases step with
  | @move m made =>
    rw [eq_comm, tell_eq_tickStarted_iff] at kind
    subst kind
    exact ⟨made, rfl⟩
  | accept | abandon | adjust | pass => cases kind

/-- Only that the loop sees its handle gone is told as that. -/
theorem tell_eq_finished_iff (l : PollLoop σ) (m : Move) : l.tell m = .finished ↔ m = .finish := by
  cases m with
  | goOn tick => simp only [tell]; split <;> simp
  | take | finish | startTick => simp [tell]

/-! ## Commands -/

/-- A command joins the queue behind all others when it is accepted, and leaves it in front of all
others when it is taken. -/
theorem Occurs.queue (step : Occurs pace l h l') :
    l.queue ++ h.accepted?.toList = h.taken?.toList ++ l'.queue := by
  cases step with
  | @move m made =>
    rw [accepted?_tell, taken?_tell]
    have entry := of_move? made
    cases m with
    | take c =>
      obtain ⟨_, rest, queue⟩ := entry
      simp [perform, take, record, queue]
    | finish | startTick | goOn => simp [perform, startTick, goOn, record]
  | accept c | abandon | adjust | pass =>
    simp [Happening.accepted?, Happening.taken?, enqueue, PollLoop.abandon, moveTo]

/-- **First come, first served**: what was queued and what was accepted since is what was taken
since and what is queued now. -/
theorem queue_course (run : Course pace l hs l') :
    l.queue ++ hs.accepted = hs.taken ++ l'.queue := by
  induction run with
  | nil => simp
  | cons first rest ih =>
    rw [Chronicle.accepted_cons, Chronicle.taken_cons, ← List.append_assoc, first.queue,
      List.append_assoc, ih, List.append_assoc]

/-- Only a command that is taken has a say in the liveness. -/
theorem Occurs.liveness (step : Occurs pace l h l') :
    l'.liveness = l.liveness.afterAll h.taken?.toList := by
  cases step with
  | @move m made => rw [taken?_tell]; cases m <;> rfl
  | accept | abandon | adjust | pass => rfl

/-- The liveness is the fold of the commands taken. -/
theorem liveness_course (run : Course pace l hs l') :
    l'.liveness = l.liveness.afterAll hs.taken := by
  induction run with
  | nil => rfl
  | cons first rest ih =>
    rw [ih, first.liveness, Chronicle.taken_cons, Liveness.afterAll_append]

/-! ## Ticks -/

/-- Outside a tick, a loop that does not start one stays outside. -/
theorem Occurs.isTicking (step : Occurs pace l h l') (outside : l.isTicking = false)
    (other : h ≠ .tickStarted) : l'.isTicking = false := by
  cases step with
  | @move m made =>
    have entry := of_move? made
    cases m with
    | take c =>
      show (l.take c).isTicking = false
      by_cases last : c = .shutdown <;> simp [PollLoop.isTicking, take, record, last, entry.1]
    | finish => rfl
    | startTick => exact absurd rfl other
    | goOn tick =>
      obtain ⟨wake, phase, _⟩ := entry
      simp [PollLoop.isTicking, phase] at outside
  | accept | abandon | adjust | pass => exact outside

/-- Outside a tick nothing has an effect. -/
theorem Occurs.timedEffects (step : Occurs pace l h l') (outside : l.isTicking = false) :
    l'.history.timedEffects = l.history.timedEffects := by
  cases step with
  | @move m made =>
    have entry := of_move? made
    cases m with
    | take c =>
      show History.timedEffects (l.history ++ .stamped l.now _) = _
      rw [History.timedEffects_append, History.timedEffects_stamped, Output.effects_notices,
        List.map_nil, List.append_nil]
    | finish | startTick => rfl
    | goOn tick =>
      obtain ⟨wake, phase, _⟩ := entry
      simp [PollLoop.isTicking, phase] at outside
  | accept | abandon | adjust | pass => rfl

/-- Outside a tick only a change of the surroundings changes the station. -/
theorem Occurs.station (step : Occurs pace l h l') (outside : l.isTicking = false)
    (fixed : h ≠ .adjusted) : l'.station = l.station := by
  cases step with
  | @move m made =>
    have entry := of_move? made
    cases m with
    | take | finish | startTick => rfl
    | goOn tick =>
      obtain ⟨wake, phase, _⟩ := entry
      simp [PollLoop.isTicking, phase] at outside
  | adjust => exact absurd rfl fixed
  | accept | abandon | pass => rfl

/-- A loop outside a tick that starts none has no effect. -/
theorem Course.effects_of_not_isTicking (run : Course pace l hs l')
    (outside : l.isTicking = false) (quiet : .tickStarted ∉ hs.kinds) :
    l'.effects = l.effects := by
  induction run with
  | nil => rfl
  | cons first _ ih =>
    rw [Chronicle.kinds_cons, List.mem_cons, not_or] at quiet
    rw [ih (first.isTicking outside (Ne.symm quiet.1)) quiet.2]
    unfold PollLoop.effects
    rw [← History.map_timedEffects, first.timedEffects outside, History.map_timedEffects]

/-! ## The end -/

/-- Nothing of an ended loop changes but what surrounds it. -/
theorem Occurs.of_hasEnded (step : Occurs pace l h l') (ended : l.hasEnded = true) :
    l'.hasEnded = true ∧ l'.history = l.history ∧ l'.queue = l.queue ∧ h.taken? = none ∧
      h ≠ .tickStarted := by
  cases step with
  | move made =>
    rw [move?_of_hasEnded ended] at made
    cases made
  | accept c _ reachable => simp [isOutOfReach, ended] at reachable
  | abandon | adjust | pass => exact ⟨ended, rfl, rfl, rfl, by simp⟩

/-- An ended loop takes no command, starts no tick and gives nothing off. -/
theorem Course.of_hasEnded (run : Course pace l hs l') (ended : l.hasEnded = true) :
    l'.hasEnded = true ∧ l'.history = l.history ∧ l'.queue = l.queue ∧ hs.taken = [] ∧
      hs.starts = [] := by
  induction run with
  | nil => exact ⟨ended, rfl, rfl, rfl, rfl⟩
  | cons first _ ih =>
    obtain ⟨still, history, queue, none, other⟩ := first.of_hasEnded ended
    obtain ⟨last, history', queue', taken, starts⟩ := ih still
    refine ⟨last, history'.trans history, queue'.trans queue, ?_, ?_⟩
    · rw [Chronicle.taken_cons, none, taken]
      rfl
    · rw [Chronicle.starts_cons, if_neg other, starts]
      rfl

/-- A loop that takes a shutdown has ended. -/
theorem hasEnded_of_shutdown_mem (run : Course pace l hs l') (taken : .shutdown ∈ hs.taken) :
    l'.hasEnded = true := by
  induction run with
  | nil => simp at taken
  | @cons l l₁ _ h hs first rest ih =>
    rw [Chronicle.taken_cons, List.mem_append, Option.mem_toList] at taken
    rcases taken with now | later
    · refine (rest.of_hasEnded ?_).1
      cases first with
      | @move m made =>
        rw [taken?_tell] at now
        cases m with
        | take c =>
          cases now
          rfl
        | finish | startTick | goOn => cases now
      | accept | abandon | adjust | pass => cases now
    · exact ih later

/-- A loop that sees its handle gone has ended, and no command is left in the queue. -/
theorem hasEnded_of_finished_mem (run : Course pace l hs l') (finished : .finished ∈ hs.kinds) :
    l'.hasEnded = true ∧ l'.queue = [] := by
  induction run with
  | nil => simp at finished
  | @cons l l₁ _ h hs first rest ih =>
    rw [Chronicle.kinds_cons, List.mem_cons] at finished
    rcases finished with now | later
    · suffices ended : l₁.hasEnded = true ∧ l₁.queue = [] by
        obtain ⟨last, _, queue, _⟩ := rest.of_hasEnded ended.1
        exact ⟨last, queue.trans ended.2⟩
      cases first with
      | @move m made =>
        rw [eq_comm, tell_eq_finished_iff] at now
        subst now
        exact ⟨rfl, (of_move? made).2⟩
      | accept | abandon | adjust | pass => cases now
    · exact ih later

/-! ## What the owner of the handle can ask for -/

/-- Settling is a course in which the loop is left alone. -/
theorem course_settleFor (n : Nat) (l : PollLoop σ) :
    ∃ hs, Course pace l hs (settleFor n l) ∧ hs.IsUndisturbed := by
  induction n generalizing l with
  | zero => exact ⟨[], .nil l, Chronicle.isUndisturbed_nil⟩
  | succ n ih =>
    simp only [settleFor]
    split
    next m made =>
      obtain ⟨hs, rest, alone⟩ := ih (l.perform m)
      exact ⟨_, .cons (.move made) rest, alone.cons (isInner_tell l m)⟩
    next => exact ⟨[], .nil l, Chronicle.isUndisturbed_nil⟩

/-- A settled loop may let time pass until it wakes up. -/
theorem course_settle_moveTo (l : PollLoop σ) (t : Nat)
    (early : ∀ wake, l.settle.wake? = some wake → t ≤ wake) :
    ∃ hs, Course punctual l hs (l.settle.moveTo t) ∧ hs.IsUndisturbed := by
  obtain ⟨hs, settled, alone⟩ : ∃ hs, Course punctual l hs l.settle ∧ hs.IsUndisturbed :=
    course_settleFor l.work l
  exact ⟨_, settled.append (.single (.pass t ⟨move?_settle l, early⟩)),
    alone.append (Chronicle.isUndisturbed_nil.cons rfl)⟩

theorem course_runUntilFor (n t : Nat) (l : PollLoop σ) (enough : t - l.now ≤ n) :
    ∃ hs, Course punctual l hs (runUntilFor n t l) ∧ hs.IsUndisturbed := by
  induction n generalizing l with
  | zero =>
    have same : l.moveTo t = l := by
      have late : max l.now t = l.now := by omega
      simp [moveTo, late]
    exact ⟨[], by rw [runUntilFor, same]; exact .nil l, Chronicle.isUndisturbed_nil⟩
  | succ n ih =>
    simp only [runUntilFor]
    split
    next wake wakes =>
      split
      next before =>
        have later := now_lt_of_wake? (move?_settle l) wakes
        have stop : (l.settle.moveTo wake).now = wake := by
          simp only [moveTo]
          omega
        have same := now_settle l
        obtain ⟨hs, first, alone⟩ := course_settle_moveTo l wake fun w hw => by
          rw [wakes] at hw
          cases hw
          exact Nat.le_refl _
        obtain ⟨ks, rest, alone'⟩ := ih (l.settle.moveTo wake) (by omega)
        exact ⟨_, first.append rest, alone.append alone'⟩
      next after =>
        exact course_settle_moveTo l t fun w hw => by
          rw [wakes] at hw
          cases hw
          omega
    next never =>
      exact course_settle_moveTo l t fun w hw => by
        rw [never] at hw
        cases hw

/-- **Sleeping** is a punctual course in which the loop is left alone.  The owner does nothing while
time passes, and the loop acts at each moment at which it wakes up. -/
theorem course_sleep (ms : Nat) (l : PollLoop σ) :
    ∃ hs, Course punctual l hs (l.sleep ms) ∧ hs.IsUndisturbed := by
  unfold sleep runUntil
  split
  · exact ⟨[], .nil l, Chronicle.isUndisturbed_nil⟩
  · exact course_runUntilFor _ _ l (Nat.le_refl _)

theorem course_runWhileNot (done : PollLoop σ → Bool) (n : Nat) (l : PollLoop σ) :
    ∃ hs, Course punctual l hs (runWhileNot done n l) ∧ hs.IsUndisturbed := by
  induction n generalizing l with
  | zero => exact course_settleFor l.work l
  | succ n ih =>
    simp only [runWhileNot]
    split
    · exact course_settleFor l.work l
    · split
      next wake wakes =>
        obtain ⟨hs, first, alone⟩ := course_settle_moveTo l wake fun w hw => by
          rw [wakes] at hw
          cases hw
          exact Nat.le_refl _
        obtain ⟨ks, rest, alone'⟩ := ih (l.settle.moveTo wake)
        exact ⟨_, first.append rest, alone.append alone'⟩
      next => exact course_settleFor l.work l

theorem abandoned_runWhileNot (done : PollLoop σ → Bool) (n : Nat) (l : PollLoop σ) :
    (runWhileNot done n l).abandoned = l.abandoned := by
  have settled : ∀ l : PollLoop σ, l.settle.abandoned = l.abandoned := fun l =>
    settle_induction l (motive := fun k => k.abandoned = l.abandoned) rfl
      fun k m same _ => by cases m <;> exact same
  induction n generalizing l with
  | zero => exact settled l
  | succ n ih =>
    simp only [runWhileNot]
    split
    · exact settled l
    · split
      · rw [ih]
        exact settled l
      · exact settled l

theorem abandoned_awaitRoom (l : PollLoop σ) : l.awaitRoom.abandoned = l.abandoned := by
  unfold awaitRoom
  split
  · rfl
  · exact abandoned_runWhileNot _ _ l

/-- Waiting for room is a course in which the loop is left alone. -/
theorem course_awaitRoom (l : PollLoop σ) :
    ∃ hs, Course punctual l hs l.awaitRoom ∧ hs.IsUndisturbed := by
  unfold awaitRoom
  split
  · exact ⟨[], .nil l, Chronicle.isUndisturbed_nil⟩
  · exact course_runWhileNot _ _ l

/-- **Sending** a command is a punctual course: it is accepted once there is room. -/
theorem course_send (c : Command) (l : PollLoop σ) : ∃ hs, Course punctual l hs (l.send c) := by
  unfold send
  split
  · exact ⟨[], .nil l⟩
  next reachable =>
    obtain ⟨hs, waited, _⟩ := course_awaitRoom l
    split
    · exact ⟨hs, waited⟩
    next goes =>
      have ready := isReady_awaitRoom l
      simp only [isOutOfReach, Bool.or_eq_true, not_or, Bool.not_eq_true] at reachable goes
      rw [isReady, goes, Bool.or_false] at ready
      have within : l.awaitRoom.isOutOfReach = false := by
        rw [isOutOfReach, goes, abandoned_awaitRoom, reachable.2, Bool.or_false]
      exact ⟨_, waited.append (.single (.accept c ready within))⟩

/-- **Shutting down** is a punctual course. -/
theorem course_shutdown (l : PollLoop σ) : ∃ hs, Course punctual l hs l.shutdown := by
  unfold shutdown
  split
  · exact ⟨[], .nil l⟩
  · obtain ⟨hs, sent⟩ := course_send .shutdown l
    obtain ⟨ks, waited, _⟩ := course_runWhileNot hasEnded _ (l.send .shutdown)
    exact ⟨_, sent.append waited⟩

end PollLoop

end DaemonWatch
