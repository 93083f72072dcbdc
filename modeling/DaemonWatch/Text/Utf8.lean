/-
  Text as bytes, in UTF-8.

  Reading never fails as a whole: each byte that no well-formed sequence begins at is kept as a
  gap (`none`) and reading goes on behind it, so an ASCII character is never swallowed by damage
  in front of it.  The bytes are well formed exactly when there is no gap.
-/

namespace DaemonWatch.Text

/-- A text in which the undecodable bytes are gaps. -/
abbrev Gapped := List (Option Char)

/-- A string has no gaps. -/
def gapped (s : String) : Gapped := s.toList.map some

/-- The characters of a text without gaps, and nothing for any other. -/
def whole? (s : Gapped) : Option (List Char) := s.mapM id

namespace Utf8

/-! ## Writing -/

/-- The one to four bytes of a character. -/
def encodeChar (c : Char) : List UInt8 :=
  let n := c.toNat
  if n < 0x80 then [UInt8.ofNat n]
  else if n < 0x800 then [UInt8.ofNat (0xC0 + n / 64), UInt8.ofNat (0x80 + n % 64)]
  else if n < 0x10000 then
    [UInt8.ofNat (0xE0 + n / 4096), UInt8.ofNat (0x80 + n / 64 % 64), UInt8.ofNat (0x80 + n % 64)]
  else
    [UInt8.ofNat (0xF0 + n / 262144), UInt8.ofNat (0x80 + n / 4096 % 64),
     UInt8.ofNat (0x80 + n / 64 % 64), UInt8.ofNat (0x80 + n % 64)]

/-- The bytes of a string. -/
def encode (s : String) : List UInt8 := s.toList.flatMap encodeChar

/-! ## Reading -/

/-- Whether a byte continues a sequence. -/
def isContinuation (b : UInt8) : Bool := 0x80 ≤ b && b < 0xC0

/-- The six low bits of a continuation byte. -/
def low (b : UInt8) : Nat := b.toNat % 64

/-- The character of a two-byte sequence.  Its first byte is at least C2, so the sequence is the
shortest one for its character. -/
def pair? (a b : UInt8) : Option Char :=
  if 0xC2 ≤ a && a < 0xE0 && isContinuation b then some (Char.ofNat (a.toNat % 32 * 64 + low b))
  else none

/-- The character of a three-byte sequence: neither one that two bytes can hold nor a surrogate. -/
def triple? (a b c : UInt8) : Option Char :=
  let n := a.toNat % 16 * 4096 + low b * 64 + low c
  if 0xE0 ≤ a && a < 0xF0 && isContinuation b && isContinuation c && 0x800 ≤ n
      && !(0xD800 ≤ n && n < 0xE000) then some (Char.ofNat n)
  else none

/-- The character of a four-byte sequence: beyond three bytes and at most 10FFFF. -/
def quadruple? (a b c d : UInt8) : Option Char :=
  let n := a.toNat % 8 * 262144 + low b * 4096 + low c * 64 + low d
  if 0xF0 ≤ a && a < 0xF8 && isContinuation b && isContinuation c && isContinuation d
      && 0x10000 ≤ n && n < 0x110000 then some (Char.ofNat n)
  else none

/-- The character that the bytes begin with, and how many bytes it takes after the first. -/
def first? : List UInt8 → Option (Char × Nat)
  | [] => none
  | a :: tail =>
    if a < 0x80 then some (Char.ofNat a.toNat, 0)
    else if a < 0xE0 then
      match tail with
      | b :: _ => (pair? a b).map (·, 1)
      | _ => none
    else if a < 0xF0 then
      match tail with
      | b :: c :: _ => (triple? a b c).map (·, 2)
      | _ => none
    else
      match tail with
      | b :: c :: d :: _ => (quadruple? a b c d).map (·, 3)
      | _ => none

/-- The text of the bytes, with a gap for each byte at which no sequence begins. -/
def decode : List UInt8 → Gapped
  | [] => []
  | a :: tail =>
    match first? (a :: tail) with
    | some (c, more) => some c :: decode (tail.drop more)
    | none => none :: decode tail
termination_by bytes => bytes.length
decreasing_by
  all_goals simp only [List.length_cons, List.length_drop]; omega

end Utf8

end DaemonWatch.Text
