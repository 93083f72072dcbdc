/-
  The poll loop: it ticks at a fixed pace, and takes commands between ticks.

  1. **Moves** (`Move`).  The loop acts only while everything else waits.  A move is one thing it
     does at the present moment: take the next command, end because the handle is gone, start a tick
     that is due, or go on with a tick whose wait is over.

  2. **Which move comes next** (`PollLoop.move?`) is decided by the phase first.  During a tick no
     command is taken.  Between ticks commands go first: a tick starts only when none is queued, the
     handle is still there, and the tick is due.

  3. **Settling** (`PollLoop.settle`): the loop makes moves until it has to wait.  They are counted,
     and `PollLoop.work` is a bound on their number.

  Time does not pass here.  It passes between two settlings, up to the moment at which the loop
  wakes up by itself (`PollLoop.wake?`).
-/
import DaemonWatch.Liveness
import DaemonWatch.Tick
import DaemonWatch.Ticker

namespace DaemonWatch

/-! ## The loop -/

/-- What the loop is at: waiting between ticks, in a tick that goes on at `wake`, or ended. -/
inductive Phase
  | between
  | ticking (wake : Nat) (tick : Tick)
  | ended

/-- The loop at some moment, the commands queued for it, whether its handle was given up, and all it
has given off. -/
structure PollLoop (σ : Type) where
  now : Nat := 0
  ticker : Ticker
  liveness : Liveness := .running
  phase : Phase := .between
  queue : List Command := []
  abandoned : Bool := false
  station : Station σ
  history : History := []

/-- One thing that the loop does. -/
inductive Move
  | take (c : Command)
  | finish
  | startTick
  | goOn (tick : Tick)

namespace PollLoop

variable {σ : Type}

/-- The loop as it is started at the time 0: the first tick is due one period later. -/
def start (period : Nat) (period_pos : 0 < period) (s : Station σ) : PollLoop σ :=
  { ticker := ⟨period, period, period_pos⟩, station := s }

/-- Whether a tick is due. -/
def tickIsDue (l : PollLoop σ) : Bool := l.liveness.isRunning && l.ticker.due ≤ l.now

/-- What the loop does next at this moment, unless it has to wait. -/
def move? (l : PollLoop σ) : Option Move :=
  match l.phase with
  | .ended => none
  | .ticking wake tick => if wake ≤ l.now then some (.goOn tick) else none
  | .between =>
    match l.queue with
    | c :: _ => some (.take c)
    | [] =>
      if l.abandoned then some .finish
      else if l.tickIsDue then some .startTick
      else none

/-- When the loop wakes up by itself. -/
def wake? (l : PollLoop σ) : Option Nat :=
  match l.phase with
  | .ended => none
  | .ticking wake _ => some wake
  | .between => if l.liveness.isRunning then some l.ticker.due else none

/-! ## Moves -/

/-- The loop with outputs given off now. -/
def record (l : PollLoop σ) (outputs : List Output) : PollLoop σ :=
  { l with history := l.history ++ .stamped l.now outputs }

/-- Takes a command off the queue.  Only the resumption of a paused loop sets the ticker up anew. -/
def take (l : PollLoop σ) (c : Command) : PollLoop σ :=
  { l.record ((l.liveness.notices c).map .notice) with
    queue := l.queue.tail
    phase := if c = .shutdown then .ended else l.phase
    liveness := l.liveness.after c
    ticker := if l.liveness.resumesOn c then l.ticker.restart l.now else l.ticker }

/-- Starts a tick. -/
def startTick (l : PollLoop σ) : PollLoop σ :=
  { l with ticker := l.ticker.fire l.now, phase := .ticking l.now .start }

/-- Goes on with a tick. -/
def goOn [Channel σ] (l : PollLoop σ) (tick : Tick) : PollLoop σ :=
  let step := tick.step l.now l.station
  { l.record step.outputs with
    station := step.station
    phase :=
      match step.next with
      | some (delay, tick) => .ticking (l.now + delay) tick
      | none => .between }

/-- Does one thing. -/
def perform [Channel σ] (l : PollLoop σ) : Move → PollLoop σ
  | .take c => l.take c
  | .finish => { l with phase := .ended }
  | .startTick => l.startTick
  | .goOn tick => l.goOn tick

/-! ## Settling -/

/-- The most that is left of a phase: more than of any phase that it leads to without a new tick. -/
def phaseWork : Phase → Nat
  | .ended => 0
  | .between => 1
  | .ticking _ tick => 2 + tick.rank

/-- A bound on the number of moves at this moment. -/
def work (l : PollLoop σ) : Nat :=
  64 * (l.now + 1 - l.ticker.due) + 2 * l.queue.length + phaseWork l.phase

/-- Lets the loop make at most `n` moves. -/
def settleFor [Channel σ] : (n : Nat) → PollLoop σ → PollLoop σ
  | 0, l => l
  | n + 1, l =>
    match l.move? with
    | some m => settleFor n (l.perform m)
    | none => l

/-- Lets the loop make moves until it has to wait. -/
def settle [Channel σ] (l : PollLoop σ) : PollLoop σ := settleFor l.work l

end PollLoop

end DaemonWatch
