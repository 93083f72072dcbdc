/-
  A tick in steps and a tick as a whole.

  The loop takes a tick step by step, with waits in between; as a whole a tick is the turns of the
  four queries, one after the other.  That these are the same is what everything about ticks rests
  on.

  1. **One piece of work after another** (`Run.andThen`): the second begins on the station and at
     the time at which the first has ended.  Work that is taken to its end is its first step, and
     then, after a wait, what comes next, taken to its end (`runFor_of_none`, `runFor_of_some`).
     That needs a rank that every step lowers, as the number of steps allowed is that of the rank.

  2. **What a turn comes to.**  A turn is one of five things: the daemon counts as disconnected
     (`Turn.run_of_disconnected`), or it does not (`Turn.run_of_connected`) and then the query
     fails, its payload cannot be decoded, or its event is handled
     (`Turn.finish_receiving_of_error`, `Turn.finish_receiving_of_undecodable`,
     `Turn.finish_receiving_of_event`).  Later modules use these lemmas and do not look into the
     steps again.

  3. **The crux (`Tick.finish_eq`)**: what is left of a tick under way is the rest of the turn it is
     at, followed by the turns after it.  So a tick is the turns of all queries (`Tick.run_eq`), and
     taken step by step to its end it is the same (`Tick.finish_start`).
-/
import DaemonWatch.Tick

namespace DaemonWatch

variable {σ τ : Type}

/-! ## One piece of work after another -/

namespace Run

/-- Some work, and then more, which begins when the first has ended. -/
def andThen (first : Run σ) (more : Nat → Station σ → Run σ) : Run σ :=
  let rest := more first.time first.station
  ⟨first.history ++ rest.history, rest.station, rest.time⟩

theorem andThen_assoc (first : Run σ) (more last : Nat → Station σ → Run σ) :
    (first.andThen more).andThen last = first.andThen fun now s => (more now s).andThen last := by
  simp only [andThen, List.append_assoc]

@[simp] theorem andThen_nil (first : Run σ) : (first.andThen fun now s => ⟨[], s, now⟩) = first := by
  simp only [andThen, List.append_nil]

end Run

section Finish

variable {step : Nat → Station σ → τ → Step σ τ} (rank : τ → Nat) (positive : ∀ t, 0 < rank t)

include positive

/-- Work whose first step is its last. -/
theorem runFor_of_none {now : Nat} {s : Station σ} {t : τ} (last : (step now s t).next = none) :
    runFor step (rank t) now s t =
      ⟨.stamped now (step now s t).outputs, (step now s t).station, now⟩ := by
  obtain ⟨n, more⟩ := Nat.exists_eq_succ_of_ne_zero (Nat.ne_of_gt (positive t))
  rw [more]
  simp only [runFor, last]

/-- Work that is taken to its end is its first step and then, after a wait, what comes next, taken
to its end. -/
theorem runFor_of_some
    (lower : ∀ now s t t' delay, (step now s t).next = some (delay, t') → rank t' < rank t)
    {now : Nat} {s : Station σ} {t t' : τ} {delay : Nat}
    (next : (step now s t).next = some (delay, t')) :
    runFor step (rank t) now s t =
      (⟨.stamped now (step now s t).outputs, (step now s t).station, now + delay⟩ : Run σ).andThen
        fun later s' => runFor step (rank t') later s' t' := by
  obtain ⟨n, more⟩ := Nat.exists_eq_succ_of_ne_zero (Nat.ne_of_gt (positive t))
  have less := lower now s t t' delay next
  have same := runFor_eq rank positive lower (m := n) (n := rank t') (now + delay)
    (step now s t).station t' (by omega) (Nat.le_refl _)
  rw [more]
  simp only [runFor, next, same, Run.andThen]

end Finish

/-! ## Turns and ticks -/

namespace Turn

variable [Channel σ]

/-- What is left of a turn that goes on at the time `now`. -/
def finish (q : Query) (now : Nat) (s : Station σ) (t : Turn) : Run σ :=
  runFor (step q) t.rank now s t

theorem finish_of_none {q : Query} {now : Nat} {s : Station σ} {t : Turn}
    (last : (t.step q now s).next = none) :
    t.finish q now s = ⟨.stamped now (t.step q now s).outputs, (t.step q now s).station, now⟩ :=
  runFor_of_none rank rank_pos last

theorem finish_of_some {q : Query} {now : Nat} {s : Station σ} {t t' : Turn} {delay : Nat}
    (next : (t.step q now s).next = some (delay, t')) :
    t.finish q now s =
      (⟨.stamped now (t.step q now s).outputs, (t.step q now s).station, now + delay⟩ :
        Run σ).andThen fun later s' => t'.finish q later s' :=
  runFor_of_some rank rank_pos (rank_step q) next

/-! ### What a turn comes to -/

/-- An errand within a turn is the errand. -/
theorem finish_running (q : Query) (now : Nat) (s : Station σ) (e : Errand) :
    (running e).finish q now s = runFor Errand.step e.rank now s e := by
  show runFor (step q) e.rank now s (.running e) = _
  generalize e.rank = n
  induction n generalizing now s e with
  | zero => rfl
  | succ n ih =>
    simp only [runFor, step]
    cases next : (e.step now s).next with
    | none => rfl
    | some n => simp only [Option.map_some, ih]

/-- A query is not put to a daemon that counts as disconnected. -/
theorem run_of_disconnected (q : Query) {now : Nat} {s : Station σ}
    (off : (Channel.connected now s.channel).1 = false) :
    run q now s = ⟨[], { s with channel := (Channel.connected now s.channel).2 }, now⟩ := by
  have last : (step q now s .ready).next = none := by simp [step, off]
  rw [run, ← finish, finish_of_none last]
  simp [step, off, History.stamped]

/-- A query is put to a daemon that counts as connected, and then its reply is awaited. -/
theorem run_of_connected (q : Query) {now : Nat} {s : Station σ}
    (on : (Channel.connected now s.channel).1 = true) :
    let asked := Channel.query q now (Channel.connected now s.channel).2
    run q now s =
      (⟨.stamped now [.effect (.query q)], { s with channel := asked.2 }, now + asked.1.delay⟩ :
        Run σ).andThen fun later s' => (receiving asked.1).finish q later s' := by
  intro asked
  have next : (step q now s .ready).next = some (asked.1.delay, .receiving asked.1) := by
    simp [step, on, asked]
  rw [run, ← finish, finish_of_some next]
  simp [step, on, asked]

/-- A failing query ends its turn. -/
theorem finish_receiving_of_error (q : Query) (now : Nat) (s : Station σ) {reply : Reply Json}
    {f : Failure} (failed : reply.result = .error f) :
    (receiving reply).finish q now s =
      ⟨.stamped now (reply.notices.map .notice ++ shownOnFailure q), s, now⟩ := by
  have last : (step q now s (.receiving reply)).next = none := by simp [step, failed]
  rw [finish_of_none last]
  simp [step, failed]

/-- A payload that cannot be decoded ends the turn. -/
theorem finish_receiving_of_undecodable (q : Query) (now : Nat) (s : Station σ)
    {reply : Reply Json} {payload : Json} {notices : List Notice} {message : String}
    (came : reply.result = .ok payload)
    (decoded : Event.decode s.clock q payload = (notices, .error message)) :
    (receiving reply).finish q now s =
      ⟨.stamped now ((reply.notices ++ notices).map .notice ++
        [.notice (.undecodable q message)]), s, now⟩ := by
  have last : (step q now s (.receiving reply)).next = none := by
    simp [step, came, accept, decoded]
  rw [finish_of_none last]
  simp [step, came, accept, decoded]

/-- An event that is decoded is handled to the end. -/
theorem finish_receiving_of_event (q : Query) (now : Nat) (s : Station σ)
    {reply : Reply Json} {payload : Json} {notices : List Notice} {e : Event}
    (came : reply.result = .ok payload)
    (decoded : Event.decode s.clock q payload = (notices, .ok e)) :
    (receiving reply).finish q now s =
      (⟨.stamped now ((reply.notices ++ notices).map .notice), s, now⟩ : Run σ).andThen
        fun now s => e.handle now s := by
  cases next : (e.begin s).next with
  | none =>
    have last : (step q now s (.receiving reply)).next = none := by
      simp [step, came, accept, decoded, next]
    rw [finish_of_none last]
    simp [step, came, accept, decoded, next, Run.andThen, Event.handle, History.stamped]
  | some n =>
    have more : (step q now s (.receiving reply)).next = some (n.1, .running n.2) := by
      simp [step, came, accept, decoded, next]
    rw [finish_of_some more]
    simp only [finish_running]
    simp [step, came, accept, decoded, next, Run.andThen, Event.handle, History.stamped]

end Turn

namespace Tick

variable [Channel σ]

theorem rank_pos (t : Tick) : 0 < t.rank := Nat.lt_of_lt_of_le t.turn.rank_pos (Nat.le_add_left _ _)

/-- What is left of a tick that goes on at the time `now`. -/
def finish (now : Nat) (s : Station σ) (t : Tick) : Run σ := runFor step t.rank now s t

theorem finish_of_none {now : Nat} {s : Station σ} {t : Tick}
    (last : (t.step now s).next = none) :
    t.finish now s = ⟨.stamped now (t.step now s).outputs, (t.step now s).station, now⟩ :=
  runFor_of_none rank rank_pos last

theorem finish_of_some {now : Nat} {s : Station σ} {t t' : Tick} {delay : Nat}
    (next : (t.step now s).next = some (delay, t')) :
    t.finish now s =
      (⟨.stamped now (t.step now s).outputs, (t.step now s).station, now + delay⟩ :
        Run σ).andThen fun later s' => t'.finish later s' :=
  runFor_of_some rank rank_pos rank_step next

/-- The turns from that of a query on. -/
def turnsFrom (q? : Option Query) (now : Nat) (s : Station σ) : Run σ :=
  match q? with
  | none => ⟨[], s, now⟩
  | some q => finish now s ⟨q, .ready⟩

/-- What is left of a tick is the rest of its turn and then the turns after it.  It is an induction
over the rank of the turn, along the steps that it still takes; the step at which it ends begins the
next turn. -/
theorem finish_eq (now : Nat) (s : Station σ) (q : Query) (t : Turn) :
    finish now s ⟨q, t⟩ = (t.finish q now s).andThen fun later s' => turnsFrom q.next? later s' := by
  -- Along the steps that the turn still takes.
  induction size : t.rank using Nat.strongRecOn generalizing now s t with
  | ind n ih =>
    subst size
    cases next : (t.step q now s).next with
    | some n =>
      obtain ⟨delay, t'⟩ := n
      have tick : (step now s ⟨q, t⟩).next = some (delay, ⟨q, t'⟩) := by simp only [step, next]
      have less := Turn.rank_step q now s t t' delay next
      rw [finish_of_some tick, Turn.finish_of_some next, Run.andThen_assoc]
      congr 1
      funext later s'
      exact ih t'.rank less later s' t' rfl
    | none =>
      rw [Turn.finish_of_none next]
      cases after : q.next? with
      | none =>
        have tick : (step now s ⟨q, t⟩).next = none := by simp only [step, next, after, Option.map]
        rw [finish_of_none tick]
        simp only [Run.andThen, turnsFrom, List.append_nil, step]
      | some q' =>
        have tick : (step now s ⟨q, t⟩).next = some (0, ⟨q', .ready⟩) := by
          simp only [step, next, after, Option.map]
        rw [finish_of_some tick]
        rfl

/-- A tick is the turns of all queries in order. -/
theorem run_eq (now : Nat) (s : Station σ) :
    run now s =
      (Turn.run .events now s).andThen fun now s =>
        (Turn.run .notification now s).andThen fun now s =>
          (Turn.run .status now s).andThen fun now s => Turn.run .errors now s := by
  simp only [run, Query.all, List.foldl, Run.andThen, List.nil_append, List.append_assoc]

/-- A tick taken step by step is the whole tick. -/
theorem finish_start (now : Nat) (s : Station σ) : finish now s start = run now s := by
  rw [run_eq, start, finish_eq]
  simp only [Query.next?, turnsFrom, finish_eq, Run.andThen_nil]
  rfl

end Tick

end DaemonWatch
