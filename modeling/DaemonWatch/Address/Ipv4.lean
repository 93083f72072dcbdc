/-
  IPv4 addresses.

  An address is at most four numbers with dots between them, each hexadecimal behind `0x`, octal
  behind `0`, and decimal else.  Each but the last is one byte, and the last fills the bytes that
  the others leave.  A dot at the end does not count.
-/
import DaemonWatch.Text.Digit
import DaemonWatch.Text.Split

namespace DaemonWatch.Address.Ipv4

open Text

/-- The number that one part of an address spells. -/
def number? (part : List Char) : Option Nat :=
  match part with
  | [] => none
  | '0' :: 'x' :: digits => digits? 16 digits
  | '0' :: 'X' :: digits => digits? 16 digits
  | '0' :: digits => digits? 8 digits
  | digits => digits? 10 digits

/-- The parts of a name, without an empty last one. -/
def parts (name : List Char) : List (List Char) :=
  let all := split '.' name
  if all.length > 1 && all.getLast? = some [] then all.dropLast else all

/-- Whether a name ends in a number, so that it has to be an address. -/
def endsInNumber (name : List Char) : Bool :=
  match (parts name).getLast? with
  | some part => (part ≠ [] && part.all Char.isDigit) || (number? part).isSome
  | none => false

/-- The number that bytes spell, each of them of more weight than the next. -/
def ofBytes (bytes : List Nat) : Nat := bytes.foldl (fun n byte => n * 256 + byte) 0

/-- The number of 32 bits that an address spells. -/
def value? (name : List Char) : Option Nat :=
  match (parts name).mapM number? with
  | none => none
  | some numbers =>
    let (front, last) := (numbers.dropLast, numbers.getLast?.getD 0)
    let room := Nat.pow 256 (4 - front.length)
    if front.length < 4 && front.all (· < 256) && last < room then
      some (ofBytes front * room + last)
    else none

/-- The text of an address: its four bytes in decimal. -/
def text (value : Nat) : List Char :=
  let byte (place : Nat) := value / Nat.pow 256 place % 256
  ['.'].intercalate ([3, 2, 1, 0].map fun place => Nat.toDigits 10 (byte place))

end DaemonWatch.Address.Ipv4
