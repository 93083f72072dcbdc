/-
  Texts of any characters, written in ASCII.

  The ASCII characters of a text come first, with a hyphen behind them if there are any.  Then
  each other character is written as a distance, in the order of code points and from left to
  right: how many pairs of a code point and a place lie between it and the character before.
  A distance is a run of digits of the base 36, least first.  Which digits can be the last one
  of a run is told by thresholds that adapt to the distances so far.
-/
import DaemonWatch.Text.Split

namespace DaemonWatch.Domain.Punycode

open Text

/-! ## Digits -/

/-- The character of a digit: letters for 0 to 25, then decimal digits. -/
def digitChar (d : Nat) : Char := Char.ofNat (if d < 26 then 0x61 + d else 0x30 + (d - 26))

/-- The value of a digit, in either case. -/
def digit? (c : Char) : Option Nat :=
  if 'a' ≤ c && c ≤ 'z' then some (c.toNat - 0x61)
  else if 'A' ≤ c && c ≤ 'Z' then some (c.toNat - 0x41)
  else if '0' ≤ c && c ≤ '9' then some (c.toNat - 0x30 + 26)
  else none

theorem digit?_digitChar {d : Nat} (h : d < 36) : digit? (digitChar d) = some d := by
  have all : ∀ e ∈ List.range 36, digit? (digitChar e) = some e := by decide
  exact all d (List.mem_range.mpr h)

/-- The last digit of a distance is below the threshold of its position, and no other is.
Positions count in steps of 36, from 36 on. -/
def threshold (position bias : Nat) : Nat :=
  if position ≤ bias then 1 else if bias + 26 ≤ position then 26 else position - bias

theorem threshold_pos (position bias : Nat) : 1 ≤ threshold position bias := by
  unfold threshold
  split
  · exact Nat.le_refl 1
  · split <;> omega

/-! ## Adapting -/

/-- How often a number is divided by 35 until it is at most 455, and what is left. -/
def reduced (n : Nat) : Nat × Nat :=
  if 455 < n then
    let (times, left) := reduced (n / 35)
    (times + 1, left)
  else (0, n)
termination_by n
decreasing_by exact Nat.div_lt_self (by omega) (by omega)

/-- The bias for the distance after `distance`, behind which there are `count` characters.  The
first distance of a text says less about the next than later ones do. -/
def adapted (distance count : Nat) (isFirst : Bool) : Nat :=
  let share := distance / (if isFirst then 700 else 2)
  let (times, left) := reduced (share + share / count)
  times * 36 + 36 * left / (left + 38)

/-! ## Writing -/

/-- The digits of a number from a position on. -/
def digits (bias position n : Nat) : List Char :=
  let t := threshold position bias
  if n < t then [digitChar n]
  else digitChar (t + (n - t) % (36 - t)) :: digits bias (position + 36) ((n - t) / (36 - t))
termination_by n
decreasing_by
  have := threshold_pos position bias
  exact Nat.lt_of_le_of_lt (Nat.div_le_self _ _) (by omega)

/-- A text as far as it is written: its digits, how many of its characters are written, and the
distance from the last of them that was not ASCII. -/
structure Writing where
  written : List Char
  count : Nat
  isFirst : Bool
  bias : Nat
  distance : Nat

namespace Writing

/-- Writes a character of the code point at hand, and passes one that is written already. -/
def visit (code : Nat) (w : Writing) (c : Char) : Writing :=
  if c.toNat < code then { w with distance := w.distance + 1 }
  else if c.toNat = code then
    { written := w.written ++ digits w.bias 36 w.distance
      count := w.count + 1
      isFirst := false
      bias := adapted w.distance (w.count + 1) w.isFirst
      distance := 0 }
  else w

/-- Writes the characters of the code points, each greater than the last, `next` being the least
that is still to come. -/
def visitAll (text : List Char) (w : Writing) (next : Nat) : List Nat → Writing
  | [] => w
  | code :: codes =>
    let start := { w with distance := w.distance + (code - next) * (w.count + 1) }
    let done := text.foldl (visit code) start
    visitAll text { done with distance := done.distance + 1 } (code + 1) codes

end Writing

/-- Whether a character is written as itself. -/
def isPlain (c : Char) : Bool := c.toNat < 0x80

/-- A text written in ASCII. -/
def encode (text : List Char) : List Char :=
  let plain := text.filter isPlain
  let codes := (((text.filter (!isPlain ·)).map Char.toNat).mergeSort (· ≤ ·)).eraseDups
  let start : Writing :=
    { written := [], count := plain.length, isFirst := true, bias := 72, distance := 0 }
  plain ++ (if plain = [] then [] else ['-']) ++ (start.visitAll text 0x80 codes).written

/-! ## Reading -/

/-- No distance and no weight of a digit may reach this. -/
def limit : Nat := 0x100000000

/-- A text as far as it is read: where it goes on, as a code point and a place, and of the
distance that is being read its value so far and the weight and position of its next digit. -/
structure Reading where
  text : List Char
  code : Nat
  place : Nat
  bias : Nat
  distance : Nat
  weight : Nat
  position : Nat

namespace Reading

/-- Nothing but the plain characters has been read. -/
def start (plain : List Char) : Reading :=
  { text := plain, code := 0x80, place := 0, bias := 72, distance := 0, weight := 1
    position := 36 }

/-- The character that a distance leads to is put in its place. -/
def insert? (r : Reading) (distance : Nat) : Option Reading :=
  let count := r.text.length + 1
  let sum := r.place + distance
  let code := r.code + sum / count
  if code.isValidChar then
    some
      { text := r.text.insertIdx (sum % count) (Char.ofNat code)
        code := code
        place := sum % count + 1
        bias := adapted distance count (r.place = 0)
        distance := 0
        weight := 1
        position := 36 }
  else none

/-- Reads a digit. -/
def step? (r : Reading) (c : Char) : Option Reading :=
  match digit? c with
  | none => none
  | some d =>
    let distance := r.distance + d * r.weight
    let t := threshold r.position r.bias
    let weight := r.weight * (36 - t)
    if limit ≤ r.place + distance then none
    else if d < t then r.insert? distance
    else if limit ≤ weight then none
    else some { r with distance := distance, weight := weight, position := r.position + 36 }

end Reading

/-- The text that is written so, if it is written whole.  A hyphen with nothing in front of it is
taken for a digit and is none. -/
def decode? (s : List Char) : Option (List Char) :=
  let (plain, behind) := cutLast '-' s
  let distances := if plain = [] then s else behind
  match distances.foldlM Reading.step? (.start plain) with
  | some r => if r.position = 36 then some r.text else none
  | none => none

end DaemonWatch.Domain.Punycode
