/-
  Blank characters and trimming.

  A character is blank when it has the Unicode property `White_Space`.  Trimming a text drops
  the blank characters at its start and at its end; the core of every trimming is `dropEnd`,
  which is to the end of a list what `List.dropWhile` is to its start.
-/

namespace DaemonWatch.Text

/-! ## The property -/

/-- The code point ranges, both ends included, that have the property `White_Space`. -/
def blankRanges : List (Nat × Nat) :=
  [(0x09, 0x0D), (0x20, 0x20), (0x85, 0x85), (0xA0, 0xA0), (0x1680, 0x1680), (0x2000, 0x200A),
   (0x2028, 0x2029), (0x202F, 0x202F), (0x205F, 0x205F), (0x3000, 0x3000)]

/-- Whether a character is blank. -/
def isBlank (c : Char) : Bool :=
  blankRanges.any fun range => range.1 ≤ c.toNat && c.toNat ≤ range.2

/-! ## Trimming -/

/-- The list without its longest ending on which `p` holds throughout. -/
def dropEnd {α : Type} (p : α → Bool) (l : List α) : List α :=
  (l.reverse.dropWhile p).reverse

/-- The text without the blank characters at its end. -/
def trimEnd (s : List Char) : List Char := dropEnd isBlank s

/-- The text without the blank characters at both ends. -/
def trim (s : List Char) : List Char := trimEnd (s.dropWhile isBlank)

/-- `trim` on strings. -/
def trimString (s : String) : String := String.ofList (trim s.toList)

/-- What is dropped from the end is a run on which `p` holds. -/
theorem dropEnd_append_takeWhile {α : Type} (p : α → Bool) (l : List α) :
    dropEnd p l ++ (l.reverse.takeWhile p).reverse = l := by
  have h := congrArg List.reverse (List.takeWhile_append_dropWhile (p := p) (l := l.reverse))
  rwa [List.reverse_append, List.reverse_reverse] at h

end DaemonWatch.Text
