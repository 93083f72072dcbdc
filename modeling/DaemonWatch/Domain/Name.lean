/-
  Names of hosts.

  A name is mapped and brought into canonical form as a whole, then taken apart into its labels.
  Its written form is in ASCII, and neither blanks nor marks of an address can be in it.
-/
import DaemonWatch.Domain.Direction
import DaemonWatch.Domain.Label

namespace DaemonWatch.Domain

open Text

/-- Whether a character may not stand in the written form of a name. -/
def isForbidden (c : Char) : Bool :=
  c.toNat ≤ 0x20 || c.toNat = 0x7F || "#%/:<>?@[\\]^|".toList.contains c

/-- The labels of a name, as they are meant. -/
def labels? (name : List Char) : Option (List (List Char)) :=
  match mapped? name with
  | none => none
  | some text => (split '.' (canonical text)).mapM plainLabel?

/-- The written form of a name, if it has one. -/
def written? (name : List Char) : Option (List Char) :=
  match labels? name with
  | none => none
  | some labels =>
    let text := ['.'].intercalate (labels.map writtenLabel)
    if labels.all isLabel && agreeInDirection labels && !text.any isForbidden then some text
    else none

end DaemonWatch.Domain
