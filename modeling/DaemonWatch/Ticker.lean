/-
  When ticks are due.

  A ticker is due one period after it is set up and then on a grid of whole periods
  (`Ticker.restart`).  A tick that fires late by more than a grace of 5 ms leaves out the grid
  points already passed: the next one is the first after the moment it fired (`Ticker.fire`).  So
  ticks that take long do not pile up, and those that come later are on the grid again.

  Firing moves the due time forward (`Ticker.due_lt_due_fire`), so a ticker does not fire twice for
  one grid point.
-/

namespace DaemonWatch

/-- A ticker: its period, and the time at which it is due next. -/
structure Ticker where
  period : Nat
  due : Nat
  period_pos : 0 < period := by decide

namespace Ticker

/-- How late a tick may fire without leaving out grid points, in milliseconds. -/
def grace : Nat := 5

/-- The ticker that is set up at the time `now`. -/
def restart (t : Ticker) (now : Nat) : Ticker := { t with due := now + t.period }

/-- The ticker after it fired at the time `now`. -/
def fire (t : Ticker) (now : Nat) : Ticker :=
  { t with
    due :=
      if now ≤ t.due + grace then t.due + t.period
      else now + t.period - (now - t.due) % t.period }

theorem period_fire (t : Ticker) (now : Nat) : (t.fire now).period = t.period := rfl

theorem period_restart (t : Ticker) (now : Nat) : (t.restart now).period = t.period := rfl

/-- Firing moves the due time forward. -/
theorem due_lt_due_fire (t : Ticker) (now : Nat) : t.due < (t.fire now).due := by
  have pos := t.period_pos
  have rest := Nat.mod_lt (now - t.due) pos
  unfold fire grace
  split <;> simp only <;> omega

end Ticker

end DaemonWatch
