/-
  Commands under back-pressure.

  The owner of a handle waits and sends commands, one thing after the other (`Order`), and never a
  shutdown.  The queue has 8 places and is not served during a tick, so a command may have to wait
  for room; who sends it waits as well.  In spite of that every command is applied, once and in
  order.

  1. **Nothing ends the loop** (`Lasts`): it has not ended, its handle is held, and no shutdown is
     queued.  Left alone, a loop stays so (`Course.lasts`), and it only takes commands off the queue
     (`Course.queue_eq`).

  2. **One command.**  Who sends one waits for room, finds it, and puts the command behind the
     others (`Lasts.send_eq`).  It is queued at once exactly when there is room
     (`Lasts.send_eq_enqueue_iff`), and otherwise once the loop has taken another
     (`Lasts.taken_of_full`).

  3. **Many orders.**  What is sent is accepted, in the order sent, and nothing else is
     (`course_obeyAll`); that what is accepted is taken in its order is known of every course
     (`queue_course`).

  4. **The crux (`Lasts.stop_of_queued`)**: while anything is queued a tick is in progress, and less
     of it is left after its next stop.  So by induction on what is left the queue is served
     (`Lasts.queue_runUntilFor`), and a loop that is left alone for long enough has taken all that
     was queued (`Lasts.exists_patience`).

  5. **The log.**  It is logged that the loop resumes as often as the commands taken lead from
     paused to running, which is `resumed_course`.  `commands_in_order` puts all of this together.
-/
import DaemonWatch.Proofs.Resuming

namespace DaemonWatch

variable {σ : Type}

/-- What the owner of a handle asks for: to let time pass, or to send a command that is no shutdown.
A shutdown is left out because it ends the loop, and what is sent after it comes to nothing. -/
inductive Order
  | wait (ms : Nat)
  | send (c : Command) (lasting : c ≠ .shutdown)

namespace Order

/-- The command that is sent. -/
def command? : Order → Option Command
  | wait _ => none
  | send c _ => some c

/-- The commands that are sent, in order. -/
def sent (os : List Order) : List Command := os.filterMap command?

theorem sent_cons (o : Order) (os : List Order) :
    sent (o :: os) = o.command?.toList ++ sent os := by
  cases o <;> rfl

end Order

namespace PollLoop

/-- The loop after an order. -/
def obey [Channel σ] (l : PollLoop σ) : Order → PollLoop σ
  | .wait ms => l.sleep ms
  | .send c _ => l.send c

/-- The loop after orders, each given when the one before has been carried out. -/
def obeyAll [Channel σ] (l : PollLoop σ) (os : List Order) : PollLoop σ := os.foldl obey l

theorem hasRoom_iff {l : PollLoop σ} : l.hasRoom = true ↔ l.queue.length < 8 := by
  rw [hasRoom, decide_eq_true_eq]
  rfl

/-! ## Loops that last -/

/-- That a loop goes on and nothing is under way that would end it: its handle is held, and no
shutdown is in the queue.  Orders keep this, so it is asked for at the start alone. -/
structure Lasts (l : PollLoop σ) : Prop where
  goes : l.hasEnded = false
  held : l.abandoned = false
  endless : .shutdown ∉ l.queue

theorem lasts_start (period : Nat) (period_pos : 0 < period) (s : Station σ) :
    (start period period_pos s).Lasts := ⟨rfl, rfl, List.not_mem_nil⟩

/-- A loop ends by itself only when its handle is gone. -/
theorem abandoned_of_finish {l : PollLoop σ} (made : l.move? = some .finish) :
    l.abandoned = true := by
  have entry := of_move? made
  rw [move?_between l entry.1, entry.2] at made
  cases gone : l.abandoned with
  | true => rfl
  | false => simp [gone] at made

/-- A command that is no shutdown may join the queue. -/
theorem Lasts.enqueue {l : PollLoop σ} (lasts : l.Lasts) {c : Command} (lasting : c ≠ .shutdown) :
    (l.enqueue c).Lasts := by
  refine ⟨lasts.goes, lasts.held, ?_⟩
  simp only [PollLoop.enqueue, List.mem_append, List.mem_singleton, not_or]
  exact ⟨lasts.endless, Ne.symm lasting⟩

variable [Channel σ] {pace : Pace σ} {l l' : PollLoop σ} {h : Happening} {hs : Chronicle}

/-- Left alone, a loop that lasts goes on to last.  Taking a command cannot end it, as no shutdown
is queued, and it does not end by itself, as its handle is held. -/
theorem Occurs.lasts (step : Occurs pace l h l') (inner : h.isInner = true) (lasts : l.Lasts) :
    l'.Lasts := by
  cases step with
  | @move m made =>
    have entry := of_move? made
    cases m with
    | take c =>
      obtain ⟨phase, rest, queue⟩ := entry
      have endless := lasts.endless
      rw [queue, List.mem_cons, not_or] at endless
      refine ⟨?_, lasts.held, ?_⟩
      · simp [hasEnded, perform, take, record, phase, Ne.symm endless.1]
      · simp [perform, take, record, queue, endless.2]
    | finish =>
      -- The handle would have to be gone.
      have gone := abandoned_of_finish made
      rw [lasts.held] at gone
      cases gone
    | startTick => exact ⟨rfl, lasts.held, lasts.endless⟩
    | goOn tick =>
      refine ⟨?_, lasts.held, lasts.endless⟩
      simp only [hasEnded, perform, goOn]
      cases (tick.step l.now l.station).next <;> rfl
  | pass t may => exact ⟨lasts.goes, lasts.held, lasts.endless⟩
  | accept | abandon | adjust => cases inner

theorem Course.lasts (run : Course pace l hs l') (alone : hs.IsUndisturbed) (lasts : l.Lasts) :
    l'.Lasts := by
  induction run with
  | nil => exact lasts
  | cons first _ ih =>
    obtain ⟨inner, rest⟩ := List.forall_mem_cons.mp alone
    exact ih rest (first.lasts inner lasts)

/-- Left alone, a loop only takes commands off the queue. -/
theorem Course.queue_eq (run : Course pace l hs l') (alone : hs.IsUndisturbed) :
    l.queue = hs.taken ++ l'.queue := by
  have served := queue_course run
  rwa [alone.accepted_eq, List.append_nil] at served

namespace Lasts

/-- Who sends a command to a loop that lasts waits for room, finds it, and puts the command behind
the others. -/
theorem send_eq (lasts : l.Lasts) (c : Command) :
    l.send c = l.awaitRoom.enqueue c ∧ l.awaitRoom.hasRoom = true ∧ l.awaitRoom.Lasts := by
  obtain ⟨hs, waited, alone⟩ := course_awaitRoom l
  have still := waited.lasts alone lasts
  have reachable : l.isOutOfReach = false := by simp [isOutOfReach, lasts.goes, lasts.held]
  have ready := isReady_awaitRoom l
  rw [isReady, still.goes, Bool.or_false] at ready
  refine ⟨?_, ready, still⟩
  simp [send, reachable, still.goes]

/-- **A command is queued at once exactly when there is room.**  Where there is none, the loop that
it is queued in has taken another command meanwhile, so it cannot be the same loop. -/
theorem send_eq_enqueue_iff (lasts : l.Lasts) (c : Command) :
    l.send c = l.enqueue c ↔ l.queue.length < 8 := by
  obtain ⟨sent, room, _⟩ := lasts.send_eq c
  constructor
  · intro same
    -- There was room where the command was queued, so there is as much in the same loop.
    rw [sent] at same
    have queues := congrArg (List.length ∘ PollLoop.queue) same
    simp only [Function.comp_apply, PollLoop.enqueue, List.length_append,
      List.length_singleton] at queues
    rw [hasRoom_iff] at room
    omega
  · intro free
    have ready : l.isReady = true := by simp [isReady, hasRoom_iff.mpr free]
    rw [sent, awaitRoom, if_pos ready]

/-- **A command that finds the queue full is queued once the loop has taken another.**  Until then
nothing happens but what the loop does by itself, in a punctual course; the sender waits and nobody
else acts. -/
theorem taken_of_full (lasts : l.Lasts) (full : l.queue.length = 8) (c : Command) :
    ∃ ks k, Course punctual l ks k ∧ ks.IsUndisturbed ∧ ks.taken ≠ [] ∧ l.send c = k.enqueue c := by
  obtain ⟨sent, room, _⟩ := lasts.send_eq c
  obtain ⟨ks, waited, alone⟩ := course_awaitRoom l
  refine ⟨ks, _, waited, alone, fun none => ?_, sent⟩
  have queue := waited.queue_eq alone
  rw [none, List.nil_append] at queue
  rw [hasRoom_iff, ← queue, full] at room
  exact Nat.lt_irrefl _ room

end Lasts

/-! ## Orders in turn -/

/-- An order that is a command has it accepted, and nothing else is.  While time passes nothing is
accepted and the queue becomes shorter at most; a command is sent in a course that waits for room
and then accepts it. -/
theorem course_obey (lasts : l.Lasts) (within : l.queue.length ≤ 8) (o : Order) :
    (l.obey o).Lasts ∧ (l.obey o).queue.length ≤ 8 ∧
      ∃ hs, Course punctual l hs (l.obey o) ∧ hs.accepted = o.command?.toList ∧
        .adjusted ∉ hs.kinds := by
  cases o with
  | wait ms =>
    obtain ⟨hs, slept, alone⟩ := course_sleep ms l
    have queue := congrArg List.length (slept.queue_eq alone)
    rw [List.length_append] at queue
    have shorter : (l.sleep ms).queue.length ≤ 8 := by omega
    exact ⟨slept.lasts alone lasts, shorter, hs, slept, alone.accepted_eq, alone.adjusted_notMem⟩
  | send c lasting =>
    obtain ⟨sent, room, still⟩ := lasts.send_eq c
    obtain ⟨hs, waited, alone⟩ := course_awaitRoom l
    have reachable : l.awaitRoom.isOutOfReach = false := by
      simp [isOutOfReach, still.goes, still.held]
    have shorter : (l.awaitRoom.enqueue c).queue.length ≤ 8 := by
      rw [hasRoom_iff] at room
      simp only [enqueue, List.length_append, List.length_singleton]
      omega
    simp only [obey, sent]
    refine ⟨still.enqueue lasting, shorter, _,
      waited.append (.single (.accept c room reachable)), ?_, ?_⟩
    · rw [Chronicle.accepted_append, alone.accepted_eq]
      rfl
    · rw [Chronicle.kinds_append, List.mem_append, not_or]
      exact ⟨alone.adjusted_notMem, by simp⟩

/-- **What is sent is accepted**, in the order sent, and nothing else is.  It is an induction over
the orders; each of them is a course of its own, and the courses follow one upon another. -/
theorem course_obeyAll (lasts : l.Lasts) (within : l.queue.length ≤ 8) (os : List Order) :
    (l.obeyAll os).Lasts ∧ (l.obeyAll os).queue.length ≤ 8 ∧
      ∃ hs, Course punctual l hs (l.obeyAll os) ∧ hs.accepted = Order.sent os ∧
        .adjusted ∉ hs.kinds := by
  induction os generalizing l with
  | nil => exact ⟨lasts, within, [], .nil l, rfl, List.not_mem_nil⟩
  | cons o os ih =>
    obtain ⟨still, within, hs, first, accepted, fixed⟩ := course_obey lasts within o
    obtain ⟨last, within, ks, rest, accepted', fixed'⟩ := ih still within
    refine ⟨last, within, hs ++ ks, first.append rest, ?_, ?_⟩
    · rw [Chronicle.accepted_append, accepted, accepted', Order.sent_cons]
    · rw [Chronicle.kinds_append, List.mem_append, not_or]
      exact ⟨fixed, fixed'⟩

/-! ## Patience -/

theorem queue_runUntilFor_suffix (n t : Nat) (l : PollLoop σ) (enough : t - l.now ≤ n) :
    (runUntilFor n t l).queue <:+ l.queue := by
  obtain ⟨hs, ran, alone⟩ := course_runUntilFor n t l enough
  exact ⟨hs.taken, (ran.queue_eq alone).symm⟩

/-- A queue that is served at once is empty later. -/
theorem queue_runUntilFor_of_settle {n t : Nat} (served : l.settle.queue = []) (later : l.now < t)
    (enough : t - l.now ≤ n) : (runUntilFor n t l).queue = [] := by
  cases n with
  | zero => omega
  | succ n =>
    simp only [runUntilFor]
    split
    next wake wakes =>
      have after := now_lt_of_wake? (move?_settle l) wakes
      have stop : (l.settle.moveTo wake).now = wake := by
        simp only [moveTo]
        omega
      have same := now_settle l
      split
      next =>
        have suffix := queue_runUntilFor_suffix n t (l.settle.moveTo wake) (by omega)
        exact List.suffix_nil.mp (served ▸ suffix)
      next => exact served
    next => exact served

/-- A loop that lasts still does when it has nothing left to do at once. -/
theorem Lasts.settle (lasts : l.Lasts) : l.settle.Lasts := by
  obtain ⟨hs, settled, alone⟩ : ∃ hs, Course punctual l hs l.settle ∧ hs.IsUndisturbed :=
    course_settleFor l.work l
  exact settled.lasts alone lasts

/-- While anything is queued a tick is in progress, and less of it is left after its next stop. -/
theorem Lasts.stop_of_queued (lasts : l.Lasts) (queued : l.settle.queue ≠ []) :
    0 < phaseWork l.settle.phase ∧
      ∃ wake, l.settle.wake? = some wake ∧ l.now < wake ∧
        (l.settle.moveTo wake).Lasts ∧ (l.settle.moveTo wake).now = wake ∧
        ((l.settle.moveTo wake).settle.queue ≠ [] →
          phaseWork (l.settle.moveTo wake).settle.phase < phaseWork l.settle.phase) := by
  have still := lasts.settle
  obtain ⟨wake, tick, phase⟩ := ticking_of_queued (move?_settle l) queued still.goes
  have wakes : l.settle.wake? = some wake := by simp [wake?, phase]
  have after := now_lt_of_wake? (move?_settle l) wakes
  have same := now_settle l
  have more : 0 < phaseWork l.settle.phase := by
    simp only [phase, phaseWork]
    omega
  have stop : (l.settle.moveTo wake).now = wake := Nat.max_eq_right (Nat.le_of_lt after)
  exact ⟨more, wake, wakes, by omega, ⟨still.goes, still.held, still.endless⟩, stop,
    phaseWork_settle_lt (l.settle.moveTo wake) phase (Nat.le_of_eq stop.symm)⟩

/-- When enough time passes, all that is queued is taken.  It is an induction over what is left of
the tick under way: as long as anything is queued no other tick starts. -/
theorem Lasts.queue_runUntilFor (work : Nat) (lasts : l.Lasts)
    (left : l.settle.queue ≠ [] → phaseWork l.settle.phase ≤ work) :
    ∃ late, ∀ n t, late ≤ t → l.now < t → t - l.now ≤ n → (runUntilFor n t l).queue = [] := by
  -- Along what is left of the tick in progress: as long as anything is queued no other tick starts.
  induction work generalizing l with
  | zero =>
    have served : l.settle.queue = [] := by
      refine Decidable.byContradiction fun queued => ?_
      have more := (lasts.stop_of_queued queued).1
      have none := left queued
      omega
    exact ⟨0, fun n t _ later enough => queue_runUntilFor_of_settle served later enough⟩
  | succ work ih =>
    by_cases served : l.settle.queue = []
    · exact ⟨0, fun n t _ later enough => queue_runUntilFor_of_settle served later enough⟩
    · obtain ⟨_, wake, wakes, after, lasts', stop, less⟩ := lasts.stop_of_queued served
      have most := left served
      obtain ⟨late, rest⟩ := ih lasts' fun queued => by
        have shorter := less queued
        omega
      refine ⟨max late (wake + 1), fun n t long later enough => ?_⟩
      cases n with
      | zero => omega
      | succ n =>
        have before : wake < t := by omega
        simp only [runUntilFor, wakes, before, if_true]
        exact rest n t (by omega) (by omega) (by omega)

/-- **Patience is rewarded**: a loop that lasts takes all that is queued, if its owner waits long
enough.  How long depends on the tick under way, which has only so many waits left. -/
theorem Lasts.exists_patience (lasts : l.Lasts) :
    ∃ patience, ∀ ms, patience ≤ ms → (l.sleep ms).queue = [] := by
  obtain ⟨late, served⟩ := lasts.queue_runUntilFor _ fun _ => Nat.le_refl _
  refine ⟨late + 1, fun ms long => ?_⟩
  have later : ¬l.now + ms ≤ l.now := by omega
  rw [sleep, runUntil, if_neg later]
  exact served _ _ (by omega) (by omega) (Nat.le_refl _)

/-! ## Every command, once and in order -/

/-- **Commands are applied once and in order.**  Whatever orders the owner of a handle gives, one
after the other, the commands sent are those that the loop takes and behind them those still queued;
left alone for long enough, the loop takes these as well.  At every point of its course its liveness
is the fold of the commands taken so far, and it is logged that the loop resumes as often as that
fold goes from paused to running.  At most 8 commands are queued; with fewer, the next is queued at
once, and with 8 of them, once the loop has taken one. -/
theorem commands_in_order {period : Nat} (period_pos : 0 < period) (s : Station σ) (mute : s.IsMute)
    (os : List Order) :
    let first := start period period_pos s
    let l := first.obeyAll os
    (∃ hs, Course punctual first hs l ∧ hs.accepted = Order.sent os ∧
      Order.sent os = hs.taken ++ l.queue ∧
      (∀ before after, hs = before ++ after → ∃ m, Course punctual first before m ∧
        Course punctual m after l ∧ before.taken <+: Order.sent os ∧
          m.liveness = Liveness.running.afterAll before.taken) ∧
      l.history.log.count ⟨.info, "daemon restarted, resuming message poller", []⟩ =
        Liveness.running.resumptions hs.taken) ∧
    l.queue.length ≤ 8 ∧
    (∀ c, (l.send c = l.enqueue c ↔ l.queue.length < 8) ∧
      (l.queue.length = 8 → ∃ ks k, Course punctual l ks k ∧ ks.taken ≠ [] ∧
        l.send c = k.enqueue c)) ∧
    ∃ patience, ∀ ms, patience ≤ ms →
      ∃ ks, Course punctual l ks (l.sleep ms) ∧ ks.taken = l.queue := by
  intro first l
  obtain ⟨lasts, within, hs, run, accepted, fixed⟩ :=
    course_obeyAll (lasts_start period period_pos s) (Nat.zero_le 8) os
  have served := queue_course run
  have logged := resumed_course run ⟨mute, by simp [start]⟩ fixed
  have sent : Order.sent os = hs.taken ++ l.queue := accepted ▸ served
  refine ⟨⟨hs, run, accepted, sent, ?_, ?_⟩, within, fun c => ⟨lasts.send_eq_enqueue_iff c, ?_⟩, ?_⟩
  · -- At the point between the two parts of the chronicle.
    rintro before after rfl
    obtain ⟨m, reached, left⟩ := run.split
    rw [Chronicle.taken_append, List.append_assoc] at sent
    exact ⟨m, reached, left, sent ▸ List.prefix_append _ _, liveness_course reached⟩
  · rw [l.count_log]
    exact logged.trans (Nat.zero_add _)
  · intro full
    obtain ⟨ks, k, waited, _, taken, sent⟩ := lasts.taken_of_full full c
    exact ⟨ks, k, waited, taken, sent⟩
  · obtain ⟨patience, served⟩ := lasts.exists_patience
    refine ⟨patience, fun ms long => ?_⟩
    obtain ⟨ks, slept, alone⟩ := course_sleep ms l
    have queue := slept.queue_eq alone
    rw [served ms long, List.append_nil] at queue
    exact ⟨ks, slept, queue.symm⟩

/-- A loop with a period of 10 ms whose first tick takes 30 ms.  In the middle of it ten commands
are sent: eight fill the queue, and the ninth has to wait for the end of the tick.  In the end all
of them are taken, and the loop has resumed five times. -/
theorem commands_in_order_long_tick :
    let s : Station Client := { channel := { network := [⟨.timedOut, 30⟩] } }
    let first := start 10 (by decide) s
    let dead : Order := .send .daemonDead (by decide)
    let back : Order := .send .daemonRestarted (by decide)
    let crowd := [.wait 20, dead, back, dead, back, dead, back, dead, back]
    let full := first.obeyAll crowd
    let last := first.obeyAll (crowd ++ [dead, back, .wait 5])
    s.IsMute ∧ full.now = 20 ∧ full.queue.length = 8 ∧ (full.send .daemonDead).now = 40 ∧
      (∃ ks k, Course punctual full ks k ∧ ks.taken ≠ [] ∧
        full.send .daemonDead = k.enqueue .daemonDead) ∧
      ∃ hs, Course punctual first hs last ∧
        hs.taken = (List.replicate 5 [.daemonDead, .daemonRestarted]).flatten ∧
        last.history.log.count ⟨.info, "daemon restarted, resuming message poller", []⟩ = 5 := by
  intro s first dead back crowd full last
  have mute : s.IsMute := Client.isMute fun outcomes given => by cases given
  have eight : full.queue.length = 8 := by decide +kernel
  have served : last.queue = [] := by decide +kernel
  obtain ⟨-, -, sends, -⟩ := commands_in_order (by decide : 0 < 10) s mute crowd
  obtain ⟨⟨hs, run, -, sent, -, logged⟩, -⟩ :=
    commands_in_order (by decide : 0 < 10) s mute (crowd ++ [dead, back, .wait 5])
  have all : hs.taken = (List.replicate 5 [.daemonDead, .daemonRestarted]).flatten := by
    have none : hs.taken ++ last.queue = hs.taken := by rw [served, List.append_nil]
    exact none.symm.trans sent.symm
  rw [all] at logged
  exact ⟨mute, by decide +kernel, eight, by decide +kernel, (sends .daemonDead).2 eight, hs, run, all,
    logged⟩

end PollLoop

end DaemonWatch
