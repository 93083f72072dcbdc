/-
  Digits and the numbers they spell.
-/

namespace DaemonWatch.Text

/-- The value of a decimal digit. -/
def digit? (c : Char) : Option Nat :=
  if '0' ≤ c && c ≤ '9' then some (c.toNat - '0'.toNat) else none

/-- The value of a hexadecimal digit, of either case. -/
def hexDigit? (c : Char) : Option Nat :=
  if '0' ≤ c && c ≤ '9' then some (c.toNat - '0'.toNat)
  else if 'a' ≤ c && c ≤ 'f' then some (c.toNat - 'a'.toNat + 10)
  else if 'A' ≤ c && c ≤ 'F' then some (c.toNat - 'A'.toNat + 10)
  else none

/-- The number that digits spell in a base of at most sixteen, behind a number spelled before. -/
def digitsFrom? (base : Nat) (before : Nat) : List Char → Option Nat
  | [] => some before
  | c :: rest =>
    match hexDigit? c with
    | some d => if d < base then digitsFrom? base (before * base + d) rest else none
    | none => none

/-- The number that digits spell in a base of at most sixteen; no digits spell zero. -/
def digits? (base : Nat) (s : List Char) : Option Nat := digitsFrom? base 0 s

end DaemonWatch.Text
