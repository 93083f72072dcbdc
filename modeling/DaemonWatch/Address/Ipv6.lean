/-
  IPv6 addresses.

  An address is eight groups of 16 bits in hexadecimal with colons between them.  Once, two
  colons can stand for some groups of zero, and the last two groups can be written as four
  decimal bytes.
-/
import DaemonWatch.Text.Digit
import DaemonWatch.Text.Split

namespace DaemonWatch.Address.Ipv6

open Text

/-! ## Reading -/

/-- The group that a piece between colons spells. -/
def group? (piece : List Char) : Option Nat :=
  if piece ≠ [] && piece.length ≤ 4 then digits? 16 piece else none

/-- The byte that a piece between dots spells. -/
def byte? (piece : List Char) : Option Nat :=
  if piece ≠ [] && piece.all Char.isDigit && (piece.length = 1 || piece.head? ≠ some '0') then
    (digits? 10 piece).filter (· < 256)
  else none

/-- The two groups that four bytes with dots between them spell. -/
def dotted? (piece : List Char) : Option (List Nat) :=
  match (split '.' piece).mapM byte? with
  | some [a, b, c, d] => some [a * 256 + b, c * 256 + d]
  | _ => none

/-- The groups of pieces between colons, of which the last may be dotted where `atEnd` holds. -/
def groups? (atEnd : Bool) : List (List Char) → Option (List Nat)
  | [] => some []
  | [piece] => if atEnd && piece.contains '.' then dotted? piece else (group? piece).map ([·])
  | piece :: rest =>
    match group? piece, groups? atEnd rest with
    | some group, some groups => some (group :: groups)
    | _, _ => none

/-- The text in front of the first double colon and the text behind it. -/
def splitGap? : List Char → Option (List Char × List Char)
  | ':' :: ':' :: rest => some ([], rest)
  | c :: rest => (splitGap? rest).map fun (front, behind) => (c :: front, behind)
  | [] => none

/-- The pieces between colons; an empty text has none. -/
def pieces (s : List Char) : List (List Char) := if s = [] then [] else split ':' s

/-- The eight groups of an address. -/
def ofText? (s : List Char) : Option (List Nat) :=
  match splitGap? s with
  | none => (groups? true (pieces s)).filter (·.length = 8)
  | some (front, behind) =>
    match groups? false (pieces front), groups? true (pieces behind) with
    | some m, some n =>
      if m.length + n.length < 8 then
        some (m ++ List.replicate (8 - (m.length + n.length)) 0 ++ n)
      else none
    | _, _ => none

/-- What is read are eight groups. -/
theorem length_of_ofText? {s : List Char} {groups : List Nat} (h : ofText? s = some groups) :
    groups.length = 8 := by
  unfold ofText? at h
  split at h
  · obtain ⟨_, hg⟩ := Option.filter_eq_some_iff.mp h
    simpa using hg
  · split at h
    · split at h
      · obtain rfl := Option.some.inj h
        simp only [List.length_append, List.length_replicate]
        omega
      · simp at h
    · simp at h

/-! ## Writing -/

/-- The length of the run of zeros that begins at a place. -/
def zerosAt (groups : List Nat) (place : Nat) : Nat :=
  ((groups.drop place).takeWhile (· = 0)).length

/-- The place of the first longest run of zeros. -/
def gap (groups : List Nat) : Nat :=
  (List.range groups.length).foldl
    (fun best place => if zerosAt groups best < zerosAt groups place then place else best) 0

/-- Groups in hexadecimal with colons between them. -/
def colonText (groups : List Nat) : List Char := [':'].intercalate (groups.map (Nat.toDigits 16))

/-- The text of an address, in which two colons stand for the longest run of zeros, if that is not
a single zero. -/
def text (groups : List Nat) : List Char :=
  let place := gap groups
  let length := zerosAt groups place
  if length < 2 then colonText groups
  else colonText (groups.take place) ++ ':' :: ':' :: colonText (groups.drop (place + length))

end DaemonWatch.Address.Ipv6
