/-
  The way to the daemon.

  A channel is anything that can be asked whether the daemon counts as connected, that takes a
  query, and that takes the user's answer about a deletion (`Channel`).  Each of these may change
  its state, being asked included.

  Times are milliseconds on a clock that only moves forward.  A call made at some time ends `delay`
  later with a result, and what it logs is logged then (`Reply`).  The call itself takes no time:
  whoever makes it waits for as long as the reply says.
-/
import DaemonWatch.Notice

namespace DaemonWatch

/-- A value and how long it takes to come. -/
structure Timed (α : Type) where
  value : α
  delay : Nat := 0
  deriving Repr

/-- How a call ends. -/
structure Reply (α : Type) where
  result : Except Failure α
  delay : Nat := 0
  notices : List Notice := []

namespace Reply

/-- Why the call failed. -/
def failure? {α : Type} (r : Reply α) : Option Failure :=
  match r.result with
  | .ok _ => none
  | .error f => some f

end Reply

/-- A way to the daemon, with its state. -/
class Channel (σ : Type) where
  /-- Whether the daemon counts as connected. -/
  connected : (now : Nat) → σ → Bool × σ
  /-- Puts a query to the daemon. -/
  query : Query → (now : Nat) → σ → Reply Json × σ
  /-- Tells the daemon whether the deletion with an id is cancelled. -/
  confirm : (id : String) → (cancelled : Bool) → (now : Nat) → σ → Reply Unit × σ

end DaemonWatch
