/-
  Where the signals that the libraries are loaded are kept until someone reads them.

  An inbox keeps the last 16 signals.  A signal that finds it full pushes the oldest one out; the
  reader is first told how many were missed that way.  Without a reader signals are lost.
-/

namespace DaemonWatch

/-- The signal to the rest of the application. -/
inductive Signal
  | filesystemLoaded
  deriving Repr, DecidableEq

/-- What a reader gets: a signal, or the number of those that were missed before the next one. -/
inductive Delivery
  | signal (s : Signal)
  | missed (n : Nat)
  deriving Repr, DecidableEq

/-- The signals kept for a reader, oldest first, and the number missed. -/
structure Inbox where
  missed : Nat := 0
  kept : List Signal := []
  deriving Repr, DecidableEq

namespace Inbox

/-- How many signals are kept. -/
def capacity : Nat := 16

/-- Takes in a signal. -/
def push (b : Inbox) (s : Signal) : Inbox :=
  if b.kept.length < capacity then { b with kept := b.kept ++ [s] }
  else { missed := b.missed + 1, kept := b.kept.drop 1 ++ [s] }

/-- Hands out everything and is empty then. -/
def drain (b : Inbox) : List Delivery × Inbox :=
  let lag := if b.missed = 0 then [] else [Delivery.missed b.missed]
  (lag ++ b.kept.map .signal, {})

end Inbox

end DaemonWatch
