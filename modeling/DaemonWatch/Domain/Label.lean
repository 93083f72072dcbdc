/-
  Labels: what stands between the dots of a name.

  A label of ASCII alone is written as it is, and any other as `xn--` with its Punycode behind.
  A label that is given in that second form has to be one that writing could have produced.
-/
import DaemonWatch.Domain.Canonical
import DaemonWatch.Domain.Joining
import DaemonWatch.Domain.Mapping
import DaemonWatch.Domain.Punycode

namespace DaemonWatch.Domain

open Punycode (isPlain)

/-- What the written form of a label that is not of ASCII alone begins with. -/
def lead : List Char := "xn--".toList

/-- What stands behind the lead in a label that has it. -/
def behindLead? (label : List Char) : Option (List Char) :=
  if lead.isPrefixOf label then some (label.drop lead.length) else none

/-- The greatest length of a label that is not of ASCII alone. -/
def maxLength : Nat := 1000

/-- The greatest length of what stands behind the lead. -/
def maxWrittenLength : Nat := 2000

/-- Whether a text is in canonical form and of characters that stand for themselves. -/
def isSettled (text : List Char) : Bool :=
  text.all (fate · = .kept) && canonical text = text

/-- The label that is meant by a mapped label. -/
def plainLabel? (label : List Char) : Option (List Char) :=
  match behindLead? label with
  | none => some label
  | some written =>
    if written.all isPlain && written.length ≤ maxWrittenLength && written ≠ []
        && written.getLast? ≠ some '-' then
      (Punycode.decode? written).filter isSettled
    else none

/-- Whether a label can stand in a name: it does not begin with a mark, its joiners are seen, and
it is not too long. -/
def isLabel (label : List Char) : Bool :=
  !label.head?.any isMark && joinersSeen label
    && (label.all isPlain || label.length ≤ maxLength)

/-- The written form of a label. -/
def writtenLabel (label : List Char) : List Char :=
  if label.all isPlain then label else lead ++ Punycode.encode label

end DaemonWatch.Domain
