/-
  The daemon's summary of a large deletion.

  The summary contains a sentence `Deleted "<name>" and <count> more files.` whose name and count
  are not empty and stay on one line.  The first place where such a sentence starts counts; there
  the name is as long as it can be, and with that name the count is.

  The search is greedy and goes back when it has gone too far, in three layers.  `longestRun?` finds
  the longest run behind which something follows, once for the count and once for the name, which is
  followed by a count in turn (`atStart?`).  `search?` tries one start after the other.
-/
import DaemonWatch.Text.Blank

namespace DaemonWatch

/-- A file name and the number of further files, as the summary words it. -/
structure DeleteSummary where
  name : String
  count : String
  deriving Repr, DecidableEq

namespace DeleteSummary

open Text

/-! ## The fixed words -/

/-- What precedes the name. -/
def opening : List Char := "Deleted \"".toList

/-- What stands between the name and the count. -/
def middle : List Char := "\" and ".toList

/-- What follows the count. -/
def closing : List Char := " more files.".toList

/-- The sentence of a name and a count. -/
def sentence (name count : List Char) : List Char := opening ++ name ++ middle ++ count ++ closing

/-! ## Finding the sentence -/

/-- The longest run of characters of one line, at least one, behind which `follow` succeeds. -/
def longestRun? {α : Type} (follow : List Char → Option α) : List Char → Option (List Char × α)
  | [] => none
  | c :: rest =>
    if c = '\n' then none
    else
      match longestRun? follow rest with
      | some (run, a) => some (c :: run, a)
      | none => (follow rest).map fun a => ([c], a)

/-- The count at the start of a text. -/
def count? (s : List Char) : Option (List Char) :=
  (longestRun? closing.isPrefixOf? s).map (·.1)

/-- The name and the count at the start of a text. -/
def nameAndCount? (s : List Char) : Option (List Char × List Char) :=
  longestRun? (fun rest => (middle.isPrefixOf? rest).bind count?) s

/-- The name and the count of a sentence that the text starts with. -/
def atStart? (s : List Char) : Option (List Char × List Char) :=
  (opening.isPrefixOf? s).bind nameAndCount?

/-- The name and the count of the first sentence in a text. -/
def search? : List Char → Option (List Char × List Char)
  | [] => none
  | c :: rest =>
    match atStart? (c :: rest) with
    | some found => some found
    | none => search? rest

/-- The name and the count of a summary. -/
def ofText? (summary : String) : Option DeleteSummary :=
  (search? (trim summary.toList)).map fun found =>
    ⟨String.ofList found.1, String.ofList found.2⟩

end DeleteSummary

end DaemonWatch
