/-
  The lines of a text.

  A line ends at a line feed, and a carriage return right before the line feed belongs to the
  line's end.  What follows the last line feed is a line of its own unless it is empty.
-/

namespace DaemonWatch.Text

/-- A line, given backwards, without a carriage return at its end. -/
def withoutReturn : List Char → List Char
  | '\r' :: line => line
  | line => line

/-- The lines of a text whose first line has begun with `line`, given backwards. -/
def linesFrom (line : List Char) : List Char → List (List Char)
  | [] => if line = [] then [] else [line.reverse]
  | c :: rest =>
    if c = '\n' then (withoutReturn line).reverse :: linesFrom [] rest
    else linesFrom (c :: line) rest

/-- The lines of a text. -/
def lines (s : List Char) : List (List Char) := linesFrom [] s

/-- Lines as one text, with a line feed between them. -/
def unlines (ls : List (List Char)) : List Char := ['\n'].intercalate ls

end DaemonWatch.Text
