/-
  One line of the input for each question.

  1. **Answers that say yes** (`Wording.SaysYes`): one of two small words with blank characters
     around it, in letters of either case.  That is what trimming and small letters find out
     (`isAffirmative_iff`).

  2. **Lines** (`Console.lines`).  The input is cut behind every line feed.  A question takes bytes
     up to the first line feed, which is the first line of what is left (`Console.lines_eq`), and no
     byte is lost (`Console.flatten_lines`).

  3. **The crux (`Console.told_ask`)**: what comes of a question is told by its line alone
     (`Console.Told`).  It is confirmed when the line is text and says yes, and it warns when the
     line is no text; either way the line is used up, so a line that cannot be read costs one
     question and no more.

  4. **Result** (`Console.answered_line_by_line`), by induction over the questions: they are
     answered by the lines in their order, and questions that are left when the input has ended are
     not confirmed.
-/
import DaemonWatch.Console
import DaemonWatch.Proofs.Trimming
import DaemonWatch.Proofs.Utf8
import Mathlib.Data.List.SplitBy

namespace DaemonWatch

open Text

/-! ## Answers that say yes -/

namespace Wording

/-- That an answer says yes: it is `y` or `yes` in letters of either case, and what stands before
and behind that is blank. -/
def SaysYes (answer : List Char) : Prop :=
  ∃ before word after : List Char, answer = before ++ word ++ after ∧
    (∀ c ∈ before, isBlank c = true) ∧ (∀ c ∈ after, isBlank c = true) ∧
    word.map Char.toLower ∈ ["y".toList, "yes".toList]

theorem isAffirmative_iff_mem {answer : List Char} :
    isAffirmative answer = true ↔
      (trim answer).map Char.toLower ∈ ["y".toList, "yes".toList] := by
  simp [isAffirmative]

/-- A word that stands for yes neither starts nor ends in a blank character. -/
theorem exists_cons_of_yes {word : List Char}
    (yes : word.map Char.toLower ∈ ["y".toList, "yes".toList]) :
    ∃ c rest, word = c :: rest ∧ isBlank c = false ∧ ¬EndsBlank word := by
  have ending : ¬EndsBlank word := by
    rw [← endsBlank_map_toLower]
    revert yes
    generalize word.map Char.toLower = small
    intro yes
    simp only [List.mem_cons, List.not_mem_nil, or_false] at yes
    rcases yes with rfl | rfl <;> decide
  cases word with
  | nil => simp at yes
  | cons c rest =>
    refine ⟨c, rest, rfl, ?_, ending⟩
    have first : c.toLower = 'y' := by
      simp only [List.map_cons, List.mem_cons, List.not_mem_nil, or_false] at yes
      rcases yes with one | three
      · exact (List.cons_eq_cons.mp one).1
      · exact (List.cons_eq_cons.mp three).1
    rw [← isBlank_toLower, first]
    decide

/-- An answer is taken for a yes just when it says so. -/
theorem isAffirmative_iff {answer : List Char} : isAffirmative answer = true ↔ SaysYes answer := by
  rw [isAffirmative_iff_mem]
  constructor
  · intro yes
    obtain ⟨before, after, whole, blankBefore, blankAfter⟩ := exists_trim_append answer
    exact ⟨before, trim answer, after, whole, blankBefore, blankAfter, yes⟩
  · rintro ⟨before, word, after, rfl, blankBefore, blankAfter, yes⟩
    obtain ⟨c, rest, rfl, start, ending⟩ := exists_cons_of_yes yes
    rw [trim_padded blankBefore blankAfter start ending]
    exact yes

end Wording

namespace Console

/-! ## The lines of an input -/

/-- The lines of an input, each with its line feed: the input is cut behind every line feed. -/
def lines (input : List UInt8) : List (List UInt8) := input.splitBy fun b _ => b != 0x0A

theorem takeLine_append (input : List UInt8) : (takeLine input).1 ++ (takeLine input).2 = input := by
  fun_induction takeLine input with
  | case1 => rfl
  | case2 rest => rfl
  | case3 b rest other line rest' taken ih =>
    rw [taken] at ih
    exact congrArg (b :: ·) ih

/-- Within a line no byte but the last is a line feed. -/
theorem isChain_takeLine (input : List UInt8) :
    (takeLine input).1.IsChain fun b _ => (b != 0x0A) = true := by
  fun_induction takeLine input with
  | case1 => exact .nil
  | case2 rest => exact .singleton 0x0A
  | case3 b rest other line rest' taken ih =>
    rw [taken] at ih
    refine List.isChain_cons.mpr ⟨?_, ih⟩
    intro _ _
    exact bne_iff_ne.mpr other

/-- When more follows, a line ends in a line feed. -/
theorem getLast?_takeLine (input : List UInt8) (more : (takeLine input).2 ≠ []) :
    (takeLine input).1.getLast? = some 0x0A := by
  fun_induction takeLine input with
  | case1 => exact absurd rfl more
  | case2 rest => rfl
  | case3 b rest other line rest' taken ih =>
    rw [taken] at ih
    have last := ih more
    have filled : line ≠ [] := by
      rintro rfl
      cases last
    show (b :: line).getLast? = some 0x0A
    rw [List.getLast?_cons_of_ne_nil filled]
    exact last

/-- What is taken from an input is its first line. -/
theorem lines_eq {input : List UInt8} (filled : input ≠ []) :
    lines input = (takeLine input).1 :: lines (takeLine input).2 := by
  have first : (takeLine input).1 ≠ [] := by
    cases input with
    | nil => exact absurd rfl filled
    | cons b rest =>
      unfold takeLine
      split <;> exact List.cons_ne_nil _ _
  conv_lhs => rw [← takeLine_append input]
  unfold lines
  rw [List.splitBy_append, List.splitBy_of_isChain first (isChain_takeLine input)]
  · rfl
  · intro b last c next
    have more : (takeLine input).2 ≠ [] := by
      intro none
      rw [none] at next
      cases next
    rw [getLast?_takeLine input more] at last
    cases last
    rfl

/-- The lines put together again are the input. -/
theorem flatten_lines (input : List UInt8) : (lines input).flatten = input :=
  List.flatten_splitBy _ _

/-! ## What a line tells -/

/-- That a question came to what the line tells, if there is one: it is confirmed when the line is
text that says yes, and there is a warning when the line is no text. -/
structure Told (line? : Option (List UInt8)) (question : String × String) (o : Outcome) : Prop where
  shown : o.shown = Console.question question.1 question.2
  confirmed : o.confirmed = true ↔
    ∃ line ∈ line?, ∃ s : String, line.toByteArray = s.toByteArray ∧ Wording.SaysYes s.toList
  warned : o.warned = true ↔ ∃ line ∈ line?, ¬line.toByteArray.IsValidUTF8

/-- A line is taken for a yes just when it is text that says so. -/
theorem map_isAffirmative_iff {line : List UInt8} :
    ((whole? (Utf8.decode line)).map Wording.isAffirmative).getD false = true ↔
      ∃ s : String, line.toByteArray = s.toByteArray ∧ Wording.SaysYes s.toList := by
  constructor
  · intro yes
    cases read : whole? (Utf8.decode line) with
    | none =>
      rw [read] at yes
      cases yes
    | some cs =>
      rw [read] at yes
      rw [← String.toList_ofList (l := cs), Utf8.whole?_decode_eq_some_iff, Utf8.encode_eq_iff] at read
      refine ⟨String.ofList cs, read, ?_⟩
      rw [String.toList_ofList]
      exact Wording.isAffirmative_iff.mp yes
  · rintro ⟨s, same, yes⟩
    rw [Utf8.whole?_decode_eq_some_iff.mpr (Utf8.encode_eq_iff.mpr same)]
    exact Wording.isAffirmative_iff.mpr yes

/-- **One question** is told by the first line, and leaves the others.  Where the input has ended
there is no line; what is taken then is empty, and that is text and no yes. -/
theorem told_ask (input : List UInt8) (text info : String) :
    Told (lines input).head? (text, info) (ask input text info).1 ∧
      lines (ask input text info).2 = (lines input).tail := by
  by_cases filled : input = []
  · subst filled
    -- Where the input ends the line that is taken is empty, and that is no yes.
    have empty : whole? (Utf8.decode []) = some [] := by
      rw [Utf8.decode]
      rfl
    refine ⟨⟨rfl, ?_, ?_⟩, rfl⟩
    · show ((whole? (Utf8.decode [])).map Wording.isAffirmative).getD false = true ↔ _
      rw [empty]
      apply iff_of_false
      · decide
      · rintro ⟨_, none, _⟩
        cases none
    · show (whole? (Utf8.decode [])).isNone = true ↔ _
      rw [empty]
      apply iff_of_false
      · decide
      · rintro ⟨_, none, _⟩
        cases none
  · have first := lines_eq filled
    rw [first]
    refine ⟨⟨rfl, ?_, ?_⟩, rfl⟩
    · simp only [List.head?_cons, Option.mem_some_iff, exists_eq_left']
      exact map_isAffirmative_iff
    · simp only [List.head?_cons, Option.mem_some_iff, exists_eq_left']
      rw [← Utf8.whole?_decode_eq_none_iff, ← Option.isNone_iff_eq_none]
      rfl

/-! ## One line for each question -/

/-- **One line for each question.**  Questions are asked one after the other, on any bytes.  Each
comes to something, and what it comes to is told by the line of the input in its place: it is
confirmed when there is that line and it is text that says yes, and not otherwise; and there is a
warning when there is that line and it is no text, and not otherwise.  What is left is the lines
behind those. -/
theorem answered_line_by_line (input : List UInt8) (questions : List (String × String)) :
    (askEach input questions).1.length = questions.length ∧
      (∀ (k : Nat) (q : k < questions.length) (o : k < (askEach input questions).1.length),
        Told (lines input)[k]? questions[k] (askEach input questions).1[k]) ∧
      (askEach input questions).2 = ((lines input).drop questions.length).flatten := by
  induction questions generalizing input with
  | nil => exact ⟨rfl, fun k q => absurd q (Nat.not_lt_zero k), (flatten_lines input).symm⟩
  | cons question later ih =>
    obtain ⟨text, info⟩ := question
    obtain ⟨told, rest⟩ := told_ask input text info
    obtain ⟨length, each, left⟩ := ih (ask input text info).2
    rw [rest] at each left
    refine ⟨congrArg Nat.succ length, ?_, ?_⟩
    · intro k q o
      cases k with
      | zero =>
        rw [← List.head?_eq_getElem?]
        exact told
      | succ k =>
        have there := each k (Nat.lt_of_succ_lt_succ q) (Nat.lt_of_succ_lt_succ o)
        rw [List.getElem?_tail] at there
        exact there
    · rw [List.length_cons, ← List.drop_tail]
      exact left

/-- A yes, a line that is no text, two lines with other ends, and the end of the input. -/
example :
    ((askEach [0x79, 0x0A, 0x79, 0xFF, 0x0A, 0x20, 0x59, 0x45, 0x73, 0x0D, 0x0A, 0x79]
        (List.replicate 5 ("", "Delete?"))).1.map fun o => (o.confirmed, o.warned)) =
      [(true, false), (false, true), (true, false), (true, false), (false, false)] := by
  cbv

end Console

end DaemonWatch
