/-
  Texts in pieces.

  Splitting at a mark takes every occurrence of the mark out and keeps what stood between them,
  so there is one piece more than there are marks, and putting the mark back between the pieces
  gives the text again.  Cutting at a mark regards the first occurrence only.
-/

namespace DaemonWatch.Text

/-- The pieces of a text between the characters on which `isMark` holds. -/
def splitWhere (isMark : Char → Bool) : List Char → List (List Char)
  | [] => [[]]
  | c :: rest =>
    match splitWhere isMark rest with
    | [] => [[c]]
    | piece :: pieces => if isMark c then [] :: piece :: pieces else (c :: piece) :: pieces

/-- The pieces of a text between the characters that are `mark`. -/
def split (mark : Char) (s : List Char) : List (List Char) := splitWhere (· == mark) s

/-- What stands before the first `mark` and what stands behind it. -/
def cut (mark : Char) (s : List Char) : List Char × List Char :=
  (s.takeWhile (· != mark), (s.dropWhile (· != mark)).drop 1)

/-- What stands before the last `mark` and what stands behind it; without one, all is behind. -/
def cutLast (mark : Char) (s : List Char) : List Char × List Char :=
  (((s.reverse.dropWhile (· != mark)).drop 1).reverse, (s.reverse.takeWhile (· != mark)).reverse)

theorem splitWhere_ne_nil (isMark : Char → Bool) (s : List Char) : splitWhere isMark s ≠ [] := by
  cases s with
  | nil => simp [splitWhere]
  | cons c rest =>
    rw [splitWhere]
    split
    · simp
    · split <;> simp

/-- With the mark between them again, the pieces are the text. -/
theorem intercalate_split (mark : Char) (s : List Char) :
    [mark].intercalate (split mark s) = s := by
  induction s with
  | nil => simp [split, splitWhere, List.intercalate]
  | cons c rest ih =>
    unfold split at ih ⊢
    rw [splitWhere]
    cases h : splitWhere (· == mark) rest with
    | nil => exact absurd h (splitWhere_ne_nil _ rest)
    | cons piece pieces =>
      rw [h] at ih
      by_cases hc : c = mark
      · simpa [hc, List.intercalate, List.intersperse] using ih
      · cases pieces <;> simpa [hc, List.intercalate, List.intersperse] using ih

end DaemonWatch.Text
