/-
  What each character of a written name stands for.

  Names that differ only in capital letters, in the width of their characters or in what stands
  for nothing are one name.  A text is mapped character by character, and has no mapping as soon
  as one of its characters cannot be part of a name.
-/
import DaemonWatch.Domain.Alphabet
import DaemonWatch.Domain.Replacement

namespace DaemonWatch.Domain

/-- What becomes of a character: it is kept, it is dropped, others take its place, or it cannot be
part of a name. -/
inductive Fate where
  | kept
  | dropped
  | replaced (text : List Char)
  | refused
deriving Repr, DecidableEq

/-- What becomes of a character of a name. -/
def fate (c : Char) : Fate :=
  if covers alphabet c then .kept
  else if covers silent c then .dropped
  else
    match replacement? c with
    | some text => .replaced text
    | none => .refused

/-- The text that a character with this fate leaves behind, if it can be part of a name. -/
def Fate.text? (c : Char) : Fate → Option (List Char)
  | kept => some [c]
  | dropped => some []
  | replaced text => some text
  | refused => none

/-- The text that a written name stands for, if all of its characters can be part of a name. -/
def mapped? (s : List Char) : Option (List Char) :=
  (s.mapM fun c => (fate c).text? c).map List.flatten

end DaemonWatch.Domain
