/-
  The handle of a poll loop, and the passing of time.

  1. **Letting time pass** (`runUntil`, `sleep`).  Between what its owner does the loop acts and
     time passes, from one moment at which the loop wakes up to the next.  The stops are counted;
     each is later than the one before, so there are no more of them than milliseconds.

  2. **Waiting for the loop** (`runWhileNot`): time passes until something holds where the loop has
     to wait, with at most as many stops as the tick under way can have left (`patience`).

  3. **Sending** (`send`).  Commands come through a queue with 8 places.  Who sends one while the
     queue is full waits, and time passes, until the loop has made room and has to wait itself.
     Nothing is sent to a loop that has ended, or through a handle that was given up.
-/
import DaemonWatch.PollLoop.Basic

namespace DaemonWatch.PollLoop

variable {σ : Type}

/-! ## Letting time pass -/

/-- The loop at a later moment. -/
def moveTo (l : PollLoop σ) (t : Nat) : PollLoop σ := { l with now := max l.now t }

/-- Lets time pass until `t`, with at most `n` stops.  What the loop could do at `t` itself waits
until whoever let the time pass waits again. -/
def runUntilFor [Channel σ] : (n : Nat) → (t : Nat) → PollLoop σ → PollLoop σ
  | 0, t, l => l.moveTo t
  | n + 1, t, l =>
    let l := l.settle
    match l.wake? with
    | some wake => if wake < t then runUntilFor n t (l.moveTo wake) else l.moveTo t
    | none => l.moveTo t

/-- Lets time pass until `t`; nothing happens when that moment has come already. -/
def runUntil [Channel σ] (t : Nat) (l : PollLoop σ) : PollLoop σ :=
  if t ≤ l.now then l else runUntilFor (t - l.now) t l

/-- Lets time pass for a number of milliseconds. -/
def sleep [Channel σ] (ms : Nat) (l : PollLoop σ) : PollLoop σ := l.runUntil (l.now + ms)

/-- Lets the loop act, and time pass with at most `n` stops, until `done` holds where the loop has
to wait. -/
def runWhileNot [Channel σ] (done : PollLoop σ → Bool) : (n : Nat) → PollLoop σ → PollLoop σ
  | 0, l => l.settle
  | n + 1, l =>
    let l := l.settle
    if done l then l
    else
      match l.wake? with
      | some wake => runWhileNot done n (l.moveTo wake)
      | none => l

/-- A bound on the stops until the loop takes commands again. -/
def patience (l : PollLoop σ) : Nat := phaseWork l.phase

/-! ## The handle -/

/-- The places in the queue. -/
def capacity : Nat := 8

/-- Whether the queue has a free place. -/
def hasRoom (l : PollLoop σ) : Bool := l.queue.length < capacity

/-- Whether the loop has ended. -/
def hasEnded (l : PollLoop σ) : Bool :=
  match l.phase with
  | .ended => true
  | _ => false

/-- Whether a sender need not wait: there is room, or nobody will take the command any more. -/
def isReady (l : PollLoop σ) : Bool := l.hasRoom || l.hasEnded

/-- Whether nobody can reach the loop any more: it has ended, or its handle was given up. -/
def isOutOfReach (l : PollLoop σ) : Bool := l.hasEnded || l.abandoned

/-- The loop with one more command in the queue. -/
def enqueue (l : PollLoop σ) (c : Command) : PollLoop σ := { l with queue := l.queue ++ [c] }

/-- Waits until there is room in the queue, unless there is or the loop ends. -/
def awaitRoom [Channel σ] (l : PollLoop σ) : PollLoop σ :=
  if l.isReady then l else runWhileNot isReady l.patience l

/-- Sends a command: it is queued at once if there is room, and else as soon as there is. -/
def send [Channel σ] (c : Command) (l : PollLoop σ) : PollLoop σ :=
  if l.isOutOfReach then l
  else if l.awaitRoom.hasEnded then l.awaitRoom
  else l.awaitRoom.enqueue c

/-- Sends a shutdown and waits for the loop to end. -/
def shutdown [Channel σ] (l : PollLoop σ) : PollLoop σ :=
  if l.isOutOfReach then l
  else
    let l := l.send .shutdown
    runWhileNot hasEnded l.patience l

/-- Gives the handle up without a word. -/
def abandon (l : PollLoop σ) : PollLoop σ := { l with abandoned := true }

end DaemonWatch.PollLoop
