/-
  A tick: the turns of the four queries, one after the other.

  1. **The turn of a query** (`Turn`).  The query is put to the daemon if the daemon counts as
     connected at that moment, the reply is awaited, decoded and handled.  A failing query ends its
     own turn only; a failing query for the error list shows an empty list.

  2. **Two ways to take it.**  `Turn.step` and `Tick.step` do what can be done at one moment and say
     how long to wait, which is what the poll loop needs.  `Turn.run` and `Tick.run` do the whole of
     it, which is what one reasons about.

  3. **Ranks** (`Turn.rank`, `Tick.rank`) fall with every step (`Turn.rank_step`, `Tick.rank_step`).
     So a turn and a tick end, whatever the channel answers, and `runFor` is never cut short by its
     bound.
-/
import DaemonWatch.Errand

namespace DaemonWatch

/-! ## The turn of a query -/

/-- How far the turn of a query has come: nothing is done yet, the reply is coming, or the errand of
a notification is under way. -/
inductive Turn
  | ready
  | receiving (reply : Reply Json)
  | running (errand : Errand)

namespace Turn

variable {σ : Type}

/-- The steps that a turn still takes, at most. -/
def rank : Turn → Nat
  | ready => 4
  | receiving _ => 3
  | running errand => errand.rank

theorem rank_pos (t : Turn) : 0 < t.rank := by
  cases t with
  | ready => exact Nat.succ_pos 3
  | receiving reply => exact Nat.succ_pos 2
  | running errand => exact errand.rank_pos

/-- What a failed query shows. -/
def shownOnFailure (q : Query) : List Output :=
  if q = .errors then [.effect (.errors [])] else []

/-- Handles the payload of a reply. -/
def accept (q : Query) (s : Station σ) (payload : Json) : Step σ Errand :=
  match Event.decode s.clock q payload with
  | (notices, .error message) =>
    { outputs := notices.map .notice ++ [.notice (.undecodable q message)]
      station := s
      next := none }
  | (notices, .ok event) =>
    let first := event.begin s
    { first with outputs := notices.map .notice ++ first.outputs }

/-- What happens when that for which a turn waits has come. -/
def step [Channel σ] (q : Query) (now : Nat) (s : Station σ) : Turn → Step σ Turn
  | ready =>
    let (connected, channel) := Channel.connected now s.channel
    let s := { s with channel := channel }
    if connected then
      let (reply, channel) := Channel.query q now s.channel
      { outputs := [.effect (.query q)]
        station := { s with channel := channel }
        next := some (reply.delay, receiving reply) }
    else { outputs := [], station := s, next := none }
  | receiving reply =>
    let logged := reply.notices.map Output.notice
    match reply.result with
    | .error _ => { outputs := logged ++ shownOnFailure q, station := s, next := none }
    | .ok payload =>
      let first := accept q s payload
      { outputs := logged ++ first.outputs
        station := first.station
        next := first.next.map fun n => (n.1, running n.2) }
  | running errand =>
    let first := errand.step now s
    { outputs := first.outputs
      station := first.station
      next := first.next.map fun n => (n.1, running n.2) }

/-- Every step leaves fewer. -/
theorem rank_step [Channel σ] (q : Query) (now : Nat) (s : Station σ) (t t' : Turn) (delay : Nat)
    (h : (t.step q now s).next = some (delay, t')) : t'.rank < t.rank := by
  cases t with
  | ready =>
    simp only [step] at h
    split at h
    · simp only [Option.some.injEq, Prod.mk.injEq] at h
      obtain ⟨_, rfl⟩ := h
      exact Nat.lt_succ_self 3
    · cases h
  | receiving reply =>
    simp only [step] at h
    split at h
    · cases h
    · simp only [Option.map_eq_some_iff, Prod.mk.injEq] at h
      obtain ⟨n, _, _, rfl⟩ := h
      exact Nat.lt_succ_of_le n.2.rank_le
  | running errand =>
    simp only [step, Option.map_eq_some_iff, Prod.mk.injEq] at h
    obtain ⟨n, next, _, rfl⟩ := h
    exact Errand.rank_step now s errand n.2 n.1 next

/-- The whole turn of a query that begins at the time `now`. -/
def run [Channel σ] (q : Query) (now : Nat) (s : Station σ) : Run σ :=
  runFor (step q) ready.rank now s ready

end Turn

/-! ## The tick -/

/-- How far a tick has come: whose turn it is, and how far that has come. -/
structure Tick where
  query : Query
  turn : Turn

namespace Tick

variable {σ : Type}

/-- Before the first turn. -/
def start : Tick := ⟨.events, .ready⟩

/-- The number of turns that follow one. -/
def turnsAfter : Query → Nat
  | .events => 3
  | .notification => 2
  | .status => 1
  | .errors => 0

/-- The steps that a tick still takes, at most. -/
def rank (t : Tick) : Nat := turnsAfter t.query * 5 + t.turn.rank

/-- What happens when that for which a tick waits has come.  The next turn begins at once. -/
def step [Channel σ] (now : Nat) (s : Station σ) (t : Tick) : Step σ Tick :=
  let first := t.turn.step t.query now s
  { outputs := first.outputs
    station := first.station
    next :=
      match first.next with
      | some (delay, turn) => some (delay, { t with turn := turn })
      | none => t.query.next?.map fun q => (0, ⟨q, .ready⟩) }

/-- A tick has at most 19 steps. -/
theorem rank_start : start.rank = 19 := rfl

/-- Every step leaves fewer. -/
theorem rank_step [Channel σ] (now : Nat) (s : Station σ) (t t' : Tick) (delay : Nat)
    (h : (t.step now s).next = some (delay, t')) : t'.rank < t.rank := by
  simp only [step] at h
  split at h
  next d turn next =>
    simp only [Option.some.injEq, Prod.mk.injEq] at h
    obtain ⟨_, rfl⟩ := h
    exact Nat.add_lt_add_left (Turn.rank_step t.query now s t.turn turn d next) _
  next =>
    simp only [Option.map_eq_some_iff, Prod.mk.injEq] at h
    obtain ⟨q, next, _, rfl⟩ := h
    cases hq : t.query <;> simp only [hq, Query.next?, Option.some.injEq, reduceCtorEq] at next <;>
      subst next <;> simp only [rank, turnsAfter, Turn.rank, hq] <;> omega

/-- A whole tick that begins at the time `now`: the turns of all queries in order. -/
def run [Channel σ] (now : Nat) (s : Station σ) : Run σ :=
  Query.all.foldl
    (fun done q =>
      let turn := Turn.run q done.time done.station
      ⟨done.history ++ turn.history, turn.station, turn.time⟩)
    ⟨[], s, now⟩

end Tick

end DaemonWatch
