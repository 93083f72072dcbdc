/-
  Percent coding.

  A percent sign with two hexadecimal digits behind it stands for a byte.  Decoding leaves a
  percent sign alone that has no such digits behind it; encoding writes the bytes of those
  characters that need it.
-/
import DaemonWatch.Text.Digit
import DaemonWatch.Text.Utf8

namespace DaemonWatch.Text.Percent

/-- The bytes of a text in which percent signs can stand for bytes. -/
def bytes : List Char → List UInt8
  | '%' :: a :: b :: rest =>
    match digits? 16 [a, b] with
    | some n => UInt8.ofNat n :: bytes rest
    | none => 0x25 :: bytes (a :: b :: rest)
  | c :: rest => Utf8.encodeChar c ++ bytes rest
  | [] => []

/-- What a text decodes to, if that is well formed. -/
def decode? (s : List Char) : Option (List Char) := whole? (Utf8.decode (bytes s))

/-- The character of a hexadecimal digit. -/
def digitChar (n : Nat) : Char := (Nat.digitChar n).toUpper

/-- A byte behind a percent sign. -/
def encodeByte (b : UInt8) : List Char :=
  ['%', digitChar (b.toNat / 16), digitChar (b.toNat % 16)]

/-- A text with the bytes of the characters on which `escaped` holds behind percent signs. -/
def encode (escaped : Char → Bool) (s : List Char) : List Char :=
  s.flatMap fun c => if escaped c then (Utf8.encodeChar c).flatMap encodeByte else [c]

end DaemonWatch.Text.Percent
