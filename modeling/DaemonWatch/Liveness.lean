/-
  Whether the daemon is taken to be alive, and the commands that say so.
-/
import DaemonWatch.Notice

namespace DaemonWatch

/-- What the poll loop is told. -/
inductive Command
  | daemonDead
  | daemonRestarted
  | shutdown
  deriving Repr, DecidableEq

/-- Whether the poll loop ticks. -/
inductive Liveness
  | running
  | paused
  deriving Repr, DecidableEq

namespace Liveness

/-- Whether the poll loop ticks. -/
def isRunning (l : Liveness) : Bool := l = running

/-- The liveness that a command asks for; a shutdown asks for none. -/
def askedBy? : Command → Option Liveness
  | .daemonDead => some paused
  | .daemonRestarted => some running
  | .shutdown => none

/-- The liveness after a command. -/
def after (l : Liveness) (c : Command) : Liveness := (askedBy? c).getD l

/-- The liveness after commands in turn. -/
def afterAll (l : Liveness) (cs : List Command) : Liveness := cs.foldl after l

/-- The liveness after commands in turn, unless one of them asks for none. -/
def afterAll? (l : Liveness) (cs : List Command) : Option Liveness :=
  cs.foldlM (fun _ c => askedBy? c) l

/-- Whether a command makes a paused loop resume. -/
def resumesOn (l : Liveness) (c : Command) : Bool := l = paused && c = .daemonRestarted

/-- What is logged when a command comes: only that a paused loop resumes. -/
def notices (l : Liveness) (c : Command) : List Notice :=
  if l.resumesOn c then [.resumed] else []

@[simp] theorem afterAll_nil (l : Liveness) : l.afterAll [] = l := rfl

@[simp] theorem afterAll_cons (l : Liveness) (c : Command) (cs : List Command) :
    l.afterAll (c :: cs) = (l.after c).afterAll cs := rfl

@[simp] theorem afterAll_append (l : Liveness) (cs ds : List Command) :
    l.afterAll (cs ++ ds) = (l.afterAll cs).afterAll ds := List.foldl_append

/-- Commands none of which is a shutdown ask for a liveness to the end. -/
theorem afterAll?_eq_some (l : Liveness) (cs : List Command) (endless : .shutdown ∉ cs) :
    l.afterAll? cs = some (l.afterAll cs) := by
  induction cs generalizing l with
  | nil => rfl
  | cons c cs ih =>
    rw [List.mem_cons, not_or] at endless
    cases c with
    | shutdown => exact absurd rfl endless.1
    | daemonDead | daemonRestarted => exact ih _ endless.2

/-- A paused loop stays paused until the daemon is said to be back. -/
theorem afterAll_paused (cs : List Command) (dead : .daemonRestarted ∉ cs) :
    paused.afterAll cs = paused := by
  induction cs with
  | nil => rfl
  | cons c cs ih =>
    rw [List.mem_cons, not_or] at dead
    cases c with
    | daemonRestarted => exact absurd rfl dead.1
    | daemonDead | shutdown => exact ih dead.2

end Liveness

end DaemonWatch
