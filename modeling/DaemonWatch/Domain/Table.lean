/-
  Tables of characters, as text.

  A table is a text of words with blanks between them, and all code points in it are
  hexadecimal.  A span is written `61-7A`, or `5F` if it is a single code point.  A row
  `E7=63.327,65.300` gives a sequence to each of several code points, here to E7 and E8: each
  comma goes on to the next code point.
-/
import DaemonWatch.Text.Digit
import DaemonWatch.Text.Split

namespace DaemonWatch.Domain

open Text

/-- The words of a table. -/
def words (table : String) : List (List Char) :=
  (splitWhere (fun c => c == ' ' || c == '\n') table.toList).filter (· ≠ [])

/-- The number that hexadecimal digits spell. -/
def hex (digits : List Char) : Nat := (digits? 16 digits).getD 0

/-! ## Spans -/

/-- The code points from `first` to `last`, both included. -/
structure Span where
  first : Nat
  last : Nat
deriving Repr, DecidableEq

namespace Span

/-- Whether a character is in a span. -/
def contains (s : Span) (c : Char) : Bool := s.first ≤ c.toNat && c.toNat ≤ s.last

/-- The span that a word names. -/
def ofWord (word : List Char) : Span :=
  let (first, last) := cut '-' word
  ⟨hex first, if last = [] then hex first else hex last⟩

end Span

/-- The spans of a table. -/
def spans (table : String) : List Span := (words table).map Span.ofWord

/-- Whether a character is in one of the spans. -/
def covers (table : List Span) (c : Char) : Bool := table.any (·.contains c)

/-! ## Rows -/

/-- A code point and the sequence that a table gives to it. -/
structure Row where
  code : Nat
  sequence : List Char
deriving Repr, DecidableEq

/-- The rows that a word names. -/
def rowsOfWord (word : List Char) : List Row :=
  let (first, entries) := cut '=' word
  (split ',' entries).mapIdx fun i entry =>
    ⟨hex first + i, (split '.' entry).map fun digits => Char.ofNat (hex digits)⟩

/-- The rows of a table. -/
def rows (table : String) : List Row := (words table).flatMap rowsOfWord

/-- The sequence that the rows give to a character. -/
def sequence? (table : List Row) (c : Char) : Option (List Char) :=
  (table.find? (·.code = c.toNat)).map (·.sequence)

end DaemonWatch.Domain
