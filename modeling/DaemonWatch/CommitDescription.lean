/-
  Commit descriptions in the words shown to users.

  The daemon's description is taken line by line, without the blanks at each line's end.  Lines
  that speak of a repo, a recovered directory or an automatic merge are put differently.
-/
import DaemonWatch.Text.Blank
import DaemonWatch.Text.Lines

namespace DaemonWatch.CommitDescription

open Text

/-- Openings of a line and what stands in their place. -/
def openings : List (List Char × List Char) :=
  [("Reverted repo".toList, "Reverted library".toList),
   ("Recovered deleted directory".toList, "Restored deleted directory".toList)]

/-- Lines that report an automatic merge. -/
def merges : List (List Char) :=
  ["Auto merge by seafile system".toList, "Auto merge by system".toList]

/-- What is shown for an automatic merge. -/
def merged : List Char := "Automatically merged by the system".toList

/-- The line with the first of some openings that it has put differently. -/
def reopen? (line : List Char) : List (List Char × List Char) → Option (List Char)
  | [] => none
  | (old, new) :: others =>
    match old.isPrefixOf? line with
    | some rest => some (new ++ rest)
    | none => reopen? line others

/-- One line as it is shown. -/
def shownLine (line : List Char) : List Char :=
  let line := trimEnd line
  match reopen? line openings with
  | some shown => shown
  | none => if merges.contains line then merged else line

/-- The description as it is shown. -/
def shownChars (d : List Char) : List Char :=
  unlines ((lines (trimEnd d)).map shownLine)

/-- `shownChars` on strings. -/
def shown (d : String) : String := String.ofList (shownChars d.toList)

end DaemonWatch.CommitDescription
