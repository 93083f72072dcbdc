/-
  The lines of a text and the text of lines.

  1. **Induction over lines** (`lines_induction`).  A text is empty, or one line, or a first line
     with a line feed and another text behind it, and its lines are found likewise
     (`lines_of_noFeed`, `lines_append_feed`).  Whatever is shown of the lines of a text is shown in
     these three cases.

  2. **Blank characters at the end** of a text make its last line longer and put lines behind it,
     all by blank characters only.  So they add nothing but empty lines, once the lines are trimmed
     (`lines_append_blank`).

  3. **The text of lines.**  Lines that hold no line feed and end in no carriage return (`IsLine`)
     are read back from the text they make, unless the last of them is empty (`lines_unlines`): a
     line feed at the very end ends a line and begins none.  In such a text no carriage return
     stands before a line feed (`not_isInfix_unlines`).
-/
import DaemonWatch.Proofs.Trimming
import DaemonWatch.Text.Lines
import DaemonWatch.Text.Split
import Mathlib.Data.List.Infix

namespace DaemonWatch.Text

/-! ## A text by its lines -/

/-- What holds of no text and of each single line, and of a text whenever it holds of the text
behind its first line feed, holds of every text. -/
theorem lines_induction {motive : List Char → Prop} (empty : motive [])
    (line : ∀ l, '\n' ∉ l → l ≠ [] → motive l)
    (feed : ∀ l rest, '\n' ∉ l → motive rest → motive (l ++ '\n' :: rest)) (s : List Char) :
    motive s := by
  by_cases there : '\n' ∈ s
  · obtain ⟨l, rest, rfl, noFeed⟩ := List.eq_append_cons_of_mem there
    exact feed l rest noFeed (lines_induction empty line feed rest)
  · by_cases none : s = []
    · rw [none]
      exact empty
    · exact line s there none
termination_by s.length

/-- Characters other than line feeds belong to the line that has begun. -/
theorem linesFrom_append {s : List Char} (noFeed : '\n' ∉ s) (line rest : List Char) :
    linesFrom line (s ++ rest) = linesFrom (s.reverse ++ line) rest := by
  induction s generalizing line with
  | nil => rfl
  | cons c s ih =>
    rw [List.mem_cons, not_or] at noFeed
    rw [List.cons_append, linesFrom, if_neg (Ne.symm noFeed.1), ih noFeed.2, List.reverse_cons,
      List.append_assoc, List.singleton_append]

/-- Without a line feed a text is one line, unless it is empty. -/
theorem lines_of_noFeed {s : List Char} (noFeed : '\n' ∉ s) (filled : s ≠ []) : lines s = [s] := by
  have read := linesFrom_append noFeed [] []
  rw [List.append_nil, List.append_nil] at read
  rw [lines, read, linesFrom, if_neg (List.reverse_ne_nil_iff.mpr filled), List.reverse_reverse]

/-- The line before the first line feed comes first. -/
theorem lines_append_feed {l : List Char} (noFeed : '\n' ∉ l) (rest : List Char) :
    lines (l ++ '\n' :: rest) = (withoutReturn l.reverse).reverse :: lines rest := by
  rw [lines, linesFrom_append noFeed, List.append_nil, linesFrom, if_pos rfl, lines]

theorem lines_eq_nil_iff {s : List Char} : lines s = [] ↔ s = [] := by
  induction s using lines_induction with
  | empty => exact iff_of_true rfl rfl
  | line l noFeed filled => simp [lines_of_noFeed noFeed filled, filled]
  | feed l rest noFeed _ => simp [lines_append_feed noFeed]

/-- Without a carriage return at its end a line is a beginning of the line. -/
theorem exists_withoutReturn (l : List Char) :
    ∃ w, (∀ c ∈ w, isBlank c = true) ∧ l = (withoutReturn l.reverse).reverse ++ w := by
  unfold withoutReturn
  split
  next r ends =>
    refine ⟨['\r'], List.forall_mem_singleton.mpr (by decide), ?_⟩
    rw [← List.reverse_cons, ← ends, List.reverse_reverse]
  next => exact ⟨[], by simp, by simp⟩

/-- No line holds a line feed. -/
theorem noFeed_of_mem_lines {s l : List Char} (there : l ∈ lines s) : '\n' ∉ l := by
  induction s using lines_induction with
  | empty => cases there
  | line s noFeed filled =>
    rw [lines_of_noFeed noFeed filled, List.mem_singleton] at there
    rwa [there]
  | feed first rest noFeed ih =>
    rw [lines_append_feed noFeed, List.mem_cons] at there
    rcases there with rfl | later
    · obtain ⟨w, _, whole⟩ := exists_withoutReturn first
      rw [whole, List.mem_append, not_or] at noFeed
      exact noFeed.1
    · exact ih later

/-- Of a text that does not end in a line feed, the last line ends as the text does. -/
theorem getLast?_of_getLast?_lines {s l : List Char} (last : (lines s).getLast? = some l)
    (unfinished : s.getLast? ≠ some '\n') : l.getLast? = s.getLast? := by
  induction s using lines_induction with
  | empty => cases last
  | line s noFeed filled =>
    rw [lines_of_noFeed noFeed filled] at last
    cases last
    rfl
  | feed first rest noFeed ih =>
    have more : rest ≠ [] := by
      rintro rfl
      exact unfinished List.getLast?_concat
    have ending : (first ++ '\n' :: rest).getLast? = rest.getLast? := by
      rw [List.append_cons, List.getLast?_append_of_ne_nil _ more]
    rw [ending] at unfinished ⊢
    rw [lines_append_feed noFeed, ← List.singleton_append,
      List.getLast?_append_of_ne_nil _ (mt lines_eq_nil_iff.mp more)] at last
    exact ih last unfinished

/-! ## Blank characters at the end -/

theorem trimEnd_withoutReturn (l : List Char) :
    trimEnd (withoutReturn l.reverse).reverse = trimEnd l := by
  obtain ⟨w, blank, whole⟩ := exists_withoutReturn l
  conv_rhs => rw [whole, trimEnd_append_blank _ blank]

/-- Trimmed, the lines of a blank text are empty. -/
theorem trimEnd_of_mem_lines_blank {w l : List Char} (blank : ∀ c ∈ w, isBlank c = true)
    (there : l ∈ lines w) : trimEnd l = [] := by
  induction w using lines_induction with
  | empty => cases there
  | line w noFeed filled =>
    rw [lines_of_noFeed noFeed filled, List.mem_singleton] at there
    rw [there, trimEnd_eq_nil_iff]
    exact blank
  | feed first rest noFeed ih =>
    rw [List.forall_mem_append, List.forall_mem_cons] at blank
    rw [lines_append_feed noFeed, List.mem_cons] at there
    rcases there with rfl | later
    · rw [trimEnd_withoutReturn, trimEnd_eq_nil_iff]
      exact blank.1
    · exact ih blank.2.2 later

theorem map_trimEnd_lines_blank {w : List Char} (blank : ∀ c ∈ w, isBlank c = true) :
    (lines w).map trimEnd = List.replicate (lines w).length [] := by
  rw [List.eq_replicate_iff, List.forall_mem_map]
  exact ⟨List.length_map _, fun l => trimEnd_of_mem_lines_blank blank⟩

/-- What is blank at the end of a text adds only empty lines to its lines, once all are trimmed. -/
theorem lines_append_blank (s : List Char) {w : List Char} (blank : ∀ c ∈ w, isBlank c = true) :
    ∃ k, (lines (s ++ w)).map trimEnd = (lines s).map trimEnd ++ List.replicate k [] := by
  induction s using lines_induction with
  | empty => exact ⟨_, map_trimEnd_lines_blank blank⟩
  | line s noFeed filled =>
    rw [lines_of_noFeed noFeed filled]
    by_cases feed : '\n' ∈ w
    · -- The blank text goes on behind the line, and its own lines follow.
      obtain ⟨start, rest, rfl, noFeed'⟩ := List.eq_append_cons_of_mem feed
      rw [List.forall_mem_append, List.forall_mem_cons] at blank
      refine ⟨(lines rest).length, ?_⟩
      rw [← List.append_assoc, lines_append_feed (List.not_mem_append noFeed noFeed'), List.map_cons,
        trimEnd_withoutReturn, trimEnd_append_blank _ blank.1, map_trimEnd_lines_blank blank.2.2]
      rfl
    · have longer : s ++ w ≠ [] := List.append_ne_nil_of_left_ne_nil filled w
      refine ⟨0, ?_⟩
      rw [lines_of_noFeed (List.not_mem_append noFeed feed) longer, List.map_singleton,
        trimEnd_append_blank _ blank]
      rfl
  | feed first rest noFeed ih =>
    obtain ⟨k, same⟩ := ih
    refine ⟨k, ?_⟩
    rw [List.append_assoc, List.cons_append, lines_append_feed noFeed, lines_append_feed noFeed,
      List.map_cons, List.map_cons, same, List.cons_append]

/-! ## The text of lines -/

theorem unlines_singleton (l : List Char) : unlines [l] = l := List.intercalate_singleton

/-- The first line, a line feed, and the rest. -/
theorem unlines_cons_cons (l next : List Char) (ls : List (List Char)) :
    unlines (l :: next :: ls) = l ++ '\n' :: unlines (next :: ls) := by
  rw [unlines, List.intercalate_cons_cons, List.append_assoc, List.singleton_append, unlines]

/-- That a line can be read back: it holds no line feed, and no carriage return ends it. -/
structure IsLine (l : List Char) : Prop where
  noFeed : '\n' ∉ l
  noReturn : l.getLast? ≠ some '\r'

theorem IsLine.of_not_endsBlank {l : List Char} (noFeed : '\n' ∉ l) (ends : ¬EndsBlank l) :
    IsLine l :=
  ⟨noFeed, fun last => ends ⟨'\r', last, by decide⟩⟩

theorem withoutReturn_reverse {l : List Char} (noReturn : l.getLast? ≠ some '\r') :
    (withoutReturn l.reverse).reverse = l := by
  unfold withoutReturn
  split
  next r ends =>
    refine absurd ?_ noReturn
    rw [← List.reverse_reverse l, ends, List.reverse_cons, List.getLast?_concat]
  next => exact List.reverse_reverse l

/-- Lines are read back from the text they make, unless the last one is empty. -/
theorem lines_unlines {ls : List (List Char)} (areLines : ∀ l ∈ ls, IsLine l)
    (last : ls.getLast? ≠ some []) : lines (unlines ls) = ls := by
  induction ls with
  | nil => rfl
  | cons l ls ih =>
    rw [List.forall_mem_cons] at areLines
    cases ls with
    | nil =>
      have filled : l ≠ [] := fun none => last (congrArg some none)
      rw [unlines_singleton, lines_of_noFeed areLines.1.noFeed filled]
    | cons next ls =>
      rw [List.getLast?_cons_cons] at last
      rw [unlines_cons_cons, lines_append_feed areLines.1.noFeed,
        withoutReturn_reverse areLines.1.noReturn, ih areLines.2 last]

/-- The text of lines ends as the last of them does, unless that is empty. -/
theorem getLast?_unlines {ls : List (List Char)} {l : List Char} (last : ls.getLast? = some l)
    (filled : l ≠ []) : (unlines ls).getLast? = l.getLast? := by
  induction ls with
  | nil => cases last
  | cons first ls ih =>
    cases ls with
    | nil =>
      rw [List.getLast?_singleton, Option.some_inj] at last
      rw [unlines_singleton, last]
    | cons next ls =>
      rw [List.getLast?_cons_cons] at last
      have more : unlines (next :: ls) ≠ [] := by
        intro none
        have ending := ih last
        rw [none, eq_comm, List.getLast?_nil, List.getLast?_eq_none_iff] at ending
        exact filled ending
      rw [unlines_cons_cons, List.append_cons,
        List.getLast?_append_of_ne_nil _ more, ih last]

theorem bne_of_not_mem {mark : Char} {l : List Char} (unmarked : mark ∉ l) :
    ∀ c ∈ l, (c != mark) = true := by
  intro c there
  rw [bne_iff_ne]
  rintro rfl
  exact unmarked there

/-- Cutting at a mark takes apart what the first mark joins. -/
theorem cut_append {mark : Char} {l : List Char} (unmarked : mark ∉ l) (rest : List Char) :
    cut mark (l ++ mark :: rest) = (l, rest) := by
  have passed := bne_of_not_mem unmarked
  rw [cut, List.takeWhile_append_of_pos passed, List.dropWhile_append_of_pos passed]
  simp

/-- A text has only one first line feed. -/
theorem eq_of_first_feed {l l' rest rest' : List Char} (noFeed : '\n' ∉ l) (noFeed' : '\n' ∉ l')
    (same : l ++ '\n' :: rest = l' ++ '\n' :: rest') : l = l' ∧ rest = rest' := by
  have cuts := congrArg (cut '\n') same
  rwa [cut_append noFeed, cut_append noFeed', Prod.mk.injEq] at cuts

/-- A carriage return before a line feed is not found at the end of a line, so it is further on. -/
theorem return_feed_further {l rest : List Char} (line : IsLine l)
    (there : ['\r', '\n'] <:+: l ++ '\n' :: rest) : ['\r', '\n'] <:+: rest := by
  obtain ⟨before, after, split⟩ := there
  by_cases feed : '\n' ∈ before
  · obtain ⟨start, more, rfl, noFeed⟩ := List.eq_append_cons_of_mem feed
    rw [List.append_assoc, List.append_assoc, List.cons_append] at split
    obtain ⟨_, rfl⟩ := eq_of_first_feed noFeed line.noFeed split
    exact ⟨more, after, List.append_assoc _ _ _⟩
  · have noFeed : '\n' ∉ before ++ ['\r'] := List.not_mem_append feed (by decide)
    rw [List.append_assoc, List.cons_append, List.singleton_append, List.append_cons] at split
    obtain ⟨rfl, _⟩ := eq_of_first_feed noFeed line.noFeed split
    exact absurd List.getLast?_concat line.noReturn

/-- In the text of lines no carriage return stands before a line feed. -/
theorem not_isInfix_unlines {ls : List (List Char)} (areLines : ∀ l ∈ ls, IsLine l) :
    ¬['\r', '\n'] <:+: unlines ls := by
  induction ls with
  | nil => simp [unlines]
  | cons l ls ih =>
    rw [List.forall_mem_cons] at areLines
    cases ls with
    | nil =>
      rw [unlines_singleton]
      exact fun there => areLines.1.noFeed (there.subset (by simp))
    | cons next ls =>
      rw [unlines_cons_cons]
      exact fun there => ih areLines.2 (return_feed_further areLines.1 there)

end DaemonWatch.Text
