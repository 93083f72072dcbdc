/-
  Handling an event, with the errand that a notification may bring.

  1. **Errands** (`Errand`).  A deletion is put to the user; the answer, once it comes, is reported
     to the daemon; a failing report is logged and nothing else.  A link command is run with the
     account of the request's domain; without link commands or a valid account nothing happens, and
     a failing command is only logged.

  2. **Steps** (`Errand.step`).  An errand is named after what it waits for, and a step is what
     happens when that has come.  A step lowers the rank (`Errand.rank_step`), and no errand has
     more than two (`Errand.rank_le`).

  3. **Events** (`Event.begin`, `Event.handle`).  What an event shows is given off at once, before
     its errand; what is left to do is begun by `FollowUp.begin`.
-/
import DaemonWatch.Station

namespace DaemonWatch

/-! ## Errands -/

/-- An errand under way: the user's answer is coming, or the end of the report to the daemon, or the
end of a link command. -/
inductive Errand
  | asking (id : String) (confirmed : Bool)
  | reporting (id : String) (cancelled : Bool) (reply : Reply Unit)
  | linking (request : ActionRequest) (reply : Reply Unit)

namespace Errand

variable {σ : Type}

/-- The steps that an errand still takes. -/
def rank : Errand → Nat
  | asking .. => 2
  | reporting .. => 1
  | linking .. => 1

/-- What is logged when a report ends. -/
def reportNotices (id : String) (cancelled : Bool) (reply : Reply Unit) : List Notice :=
  reply.notices ++ (reply.failure?.map (Notice.confirmationFailed id cancelled)).toList

/-- What is logged when a link command ends. -/
def linkNotices (r : ActionRequest) (reply : Reply Unit) : List Notice :=
  reply.notices ++ (reply.failure?.map (Notice.linkFailed r.action r.repoId r.path)).toList

/-- What happens when that for which an errand waits has come. -/
def step [Channel σ] (now : Nat) (s : Station σ) : Errand → Step σ Errand
  | asking id confirmed =>
    let cancelled := !confirmed
    let (reply, channel) := Channel.confirm id cancelled now s.channel
    { outputs := [.effect (.confirmation id cancelled)]
      station := { s with channel := channel }
      next := some (reply.delay, reporting id cancelled reply) }
  | reporting id cancelled reply =>
    { outputs := (reportNotices id cancelled reply).map .notice, station := s, next := none }
  | linking request reply =>
    { outputs := (linkNotices request reply).map .notice, station := s, next := none }

theorem rank_pos (e : Errand) : 0 < e.rank := by cases e <;> simp [rank]

/-- An errand has at most two steps. -/
theorem rank_le (e : Errand) : e.rank ≤ 2 := by cases e <;> simp [rank]

/-- Every step leaves fewer. -/
theorem rank_step [Channel σ] (now : Nat) (s : Station σ) (e e' : Errand) (delay : Nat)
    (h : (e.step now s).next = some (delay, e')) : e'.rank < e.rank := by
  cases e <;> simp only [step, Option.some.injEq, Prod.mk.injEq, reduceCtorEq] at h
  obtain ⟨_, rfl⟩ := h
  exact Nat.lt_succ_self 1

end Errand

/-! ## Events -/

/-- Begins what is left to do after an event. -/
def FollowUp.begin {σ : Type} (s : Station σ) : FollowUp → Step σ Errand
  | askUser id text question =>
    let (answer, s) := s.takeAnswer
    { outputs := [.effect (.prompt text question)]
      station := s
      next := some (answer.delay, .asking id answer.value) }
  | runLink request =>
    match s.links, s.accountFor? request with
    | some _, some account =>
      let (reply, s) := s.takeLinkOutcome request.action
      { outputs := [.effect (.link request account)]
        station := s
        next := some (reply.delay, .linking request reply) }
    | _, _ => { outputs := [], station := s, next := none }

namespace Event

variable {σ : Type}

/-- Begins to handle an event. -/
def begin (s : Station σ) (e : Event) : Step σ Errand :=
  let reaction := e.react s.preferences
  let s := { s with memo := e.remember s.memo }
  match reaction.followUp with
  | none => { outputs := reaction.outputs, station := s, next := none }
  | some followUp =>
    let first := followUp.begin s
    { first with outputs := reaction.outputs ++ first.outputs }

/-- Handles an event that comes at the time `now`, to the end. -/
def handle [Channel σ] (now : Nat) (s : Station σ) (e : Event) : Run σ :=
  let first := begin s e
  match first.next with
  | none => ⟨.stamped now first.outputs, first.station, now⟩
  | some (delay, errand) =>
    let rest := runFor Errand.step errand.rank (now + delay) first.station errand
    ⟨.stamped now first.outputs ++ rest.history, rest.station, rest.time⟩

end Event

end DaemonWatch
