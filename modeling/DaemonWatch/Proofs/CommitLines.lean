/-
  Commit descriptions are shown line by line.

  1. **One line.**  What is shown for a line is one of three things (`ShownAs`): the line with a new
     opening in place of an old one, the words for a merge, or the line as it is.

  2. **Settled lines** (`IsSettled`): those that are shown as they are.  The crux is that every line
     that is shown is settled (`isSettled_shownLine`), because no new opening can be taken for an
     old one and no line that begins with a new opening reports a merge (`new_opening_closed`).  So
     a line that was shown once is shown the same again (`shownLine_shownLine`).

  3. **All lines.**  The lines of a shown description are the lines of the description, each as it
     is shown, without those that are blank at its end (`lines_shownChars`, `map_shownLine_lines`).
     Here a line has to be read back from the text of the lines, which is why it matters that none
     that is shown ends in a carriage return (`isLine_shownLine`).

  4. **Result** (`shown_line_by_line`): line by line what 2 says, and with it that showing a
     description twice is showing it once.
-/
import DaemonWatch.CommitDescription
import DaemonWatch.Proofs.TextLines

namespace DaemonWatch.CommitDescription

open Text

/-! ## One line -/

/-- A line is put differently only when it has one of the old openings. -/
theorem reopen?_eq_none_iff {line : List Char} {os : List (List Char × List Char)} :
    reopen? line os = none ↔ ∀ o ∈ os, ¬o.1 <+: line := by
  induction os with
  | nil => simp [reopen?]
  | cons o os ih =>
    rw [reopen?, List.forall_mem_cons]
    cases found : o.1.isPrefixOf? line with
    | none =>
      rw [ih]
      have closed : ¬o.1 <+: line := by
        rintro ⟨rest, split⟩
        rw [List.isPrefixOf?_eq_some_iff_append_eq.mpr split] at found
        cases found
      exact (and_iff_right closed).symm
    | some rest =>
      rw [List.isPrefixOf?_eq_some_iff_append_eq] at found
      refine iff_of_false (by simp) ?_
      rintro ⟨closed, _⟩
      exact closed ⟨rest, found⟩

/-- A line that is put differently has a new opening in place of the old one. -/
theorem exists_of_reopen? {line put : List Char} {os : List (List Char × List Char)}
    (found : reopen? line os = some put) :
    ∃ o ∈ os, ∃ rest, line = o.1 ++ rest ∧ put = o.2 ++ rest := by
  induction os with
  | nil => cases found
  | cons o os ih =>
    rw [reopen?] at found
    split at found
    next rest opens =>
      rw [List.isPrefixOf?_eq_some_iff_append_eq] at opens
      cases found
      exact ⟨o, List.mem_cons_self, rest, opens.symm, rfl⟩
    next =>
      obtain ⟨other, there, put⟩ := ih found
      exact ⟨other, List.mem_cons_of_mem _ there, put⟩

/-- What is shown for a line, by what it is without the blank characters at its end.  Only one of
the cases can apply, since no line that reports a merge has an opening. -/
inductive ShownAs (line : List Char) : List Char → Prop
  | reopened {o : List Char × List Char} {rest : List Char} (opening : o ∈ openings)
      (split : line = o.1 ++ rest) : ShownAs line (o.2 ++ rest)
  | merged (merge : line ∈ merges) : ShownAs line merged
  | same (closed : ∀ o ∈ openings, ¬o.1 <+: line) (other : line ∉ merges) : ShownAs line line

theorem shownAs_shownLine (line : List Char) : ShownAs (trimEnd line) (shownLine line) := by
  simp only [shownLine]
  split
  next put found =>
    obtain ⟨o, opening, rest, split, rfl⟩ := exists_of_reopen? found
    exact .reopened opening split
  next closed =>
    rw [reopen?_eq_none_iff] at closed
    by_cases merge : trimEnd line ∈ merges
    · rw [if_pos (List.contains_iff_mem.mpr merge)]
      exact .merged merge
    · rw [if_neg (mt List.contains_iff_mem.mp merge)]
      exact .same closed merge

/-- That a line is shown as it is: it does not end in a blank character, it has none of the old
openings, and it reports no merge. -/
structure IsSettled (line : List Char) : Prop where
  ends : ¬EndsBlank line
  closed : ∀ o ∈ openings, ¬o.1 <+: line
  other : line ∉ merges

/-- A line that begins with a new opening begins with no old one and reports no merge. -/
theorem new_opening_closed {o : List Char × List Char} (opening : o ∈ openings)
    (rest : List Char) :
    (∀ o' ∈ openings, ¬o'.1 <+: o.2 ++ rest) ∧ o.2 ++ rest ∉ merges := by
  have apart : ∀ o ∈ openings,
      (∀ o' ∈ openings, ¬o'.1 <+: o.2 ∧ ¬o.2 <+: o'.1) ∧ ∀ m ∈ merges, ¬o.2 <+: m := by decide
  have starts : o.2 <+: o.2 ++ rest := List.prefix_append _ _
  refine ⟨?_, fun merge => (apart o opening).2 _ merge starts⟩
  -- Of two beginnings of one line the longer one begins with the shorter one.
  intro o' opening' starts'
  obtain ⟨notIn, notOver⟩ := (apart o opening).1 o' opening'
  rcases List.prefix_or_prefix_of_prefix starts' starts with inNew | overNew
  · exact notIn inNew
  · exact notOver overNew

namespace ShownAs

variable {line put : List Char}

theorem isSettled (shown : ShownAs line put) (ends : ¬EndsBlank line) : IsSettled put := by
  cases shown with
  | @reopened o rest opening split =>
    obtain ⟨closed, other⟩ := new_opening_closed opening rest
    refine ⟨?_, closed, other⟩
    by_cases bare : rest = []
    · have plain : ∀ o ∈ openings, ¬EndsBlank o.2 := by decide
      rw [bare, List.append_nil]
      exact plain o opening
    · rw [split, endsBlank_append_iff bare] at ends
      rwa [endsBlank_append_iff bare]
  | merged => exact ⟨by decide, by decide, by decide⟩
  | same closed other => exact ⟨ends, closed, other⟩

theorem eq_of_isSettled (shown : ShownAs line put) (settled : IsSettled line) : put = line := by
  cases shown with
  | reopened opening split => exact absurd ⟨_, split.symm⟩ (settled.closed _ opening)
  | merged merge => exact absurd merge settled.other
  | same => rfl

theorem noFeed (shown : ShownAs line put) (noFeed : '\n' ∉ line) : '\n' ∉ put := by
  cases shown with
  | @reopened o rest opening split =>
    have plain : ∀ o ∈ openings, '\n' ∉ o.2 := by decide
    rw [split, List.mem_append, not_or] at noFeed
    exact List.not_mem_append (plain o opening) noFeed.2
  | merged => decide
  | same => exact noFeed

theorem ne_nil (shown : ShownAs line put) (filled : line ≠ []) : put ≠ [] := by
  cases shown with
  | @reopened o rest opening split =>
    have plain : ∀ o ∈ openings, o.2 ≠ [] := by decide
    exact List.append_ne_nil_of_left_ne_nil (plain o opening) rest
  | merged => decide
  | same => exact filled

end ShownAs

/-- What is shown for a line is settled. -/
theorem isSettled_shownLine (line : List Char) : IsSettled (shownLine line) :=
  (shownAs_shownLine line).isSettled (not_endsBlank_trimEnd line)

theorem shownLine_shownLine (line : List Char) : shownLine (shownLine line) = shownLine line := by
  have settled := isSettled_shownLine line
  have shown := shownAs_shownLine (shownLine line)
  rw [trimEnd_eq_self_iff.mpr settled.ends] at shown
  exact shown.eq_of_isSettled settled

/-- What is blank at the end of a line is not shown. -/
theorem shownLine_trimEnd (line : List Char) : shownLine (trimEnd line) = shownLine line := by
  simp only [shownLine, trimEnd_trimEnd]

/-- What is shown for a line can be read back as a line. -/
theorem isLine_shownLine {line : List Char} (noFeed : '\n' ∉ line) : IsLine (shownLine line) := by
  obtain ⟨w, _, whole⟩ := exists_trimEnd_append line
  rw [whole, List.mem_append, not_or] at noFeed
  exact .of_not_endsBlank ((shownAs_shownLine line).noFeed noFeed.1) (isSettled_shownLine line).ends

/-! ## All lines -/

/-- The last line of a description that does not end in a blank character is shown as something. -/
theorem shownLine_last_ne_nil {d line : List Char} (ends : ¬EndsBlank d)
    (last : (lines d).getLast? = some line) : shownLine line ≠ [] := by
  have unfinished : d.getLast? ≠ some '\n' := fun feed => ends ⟨'\n', feed, by decide⟩
  have same : line.getLast? = d.getLast? := getLast?_of_getLast?_lines last unfinished
  have filled : line ≠ [] := by
    rintro rfl
    rw [eq_comm, List.getLast?_nil, List.getLast?_eq_none_iff] at same
    rw [same] at last
    cases last
  have trimmed : trimEnd line = line := by
    rwa [trimEnd_eq_self_iff, endsBlank_congr same]
  rw [← trimmed] at filled
  exact (shownAs_shownLine line).ne_nil filled

/-- The lines of what is shown are the lines of the description without the blank characters at its
end, each as it is shown. -/
theorem lines_shownChars (d : List Char) :
    lines (shownChars d) = (lines (trimEnd d)).map shownLine := by
  refine lines_unlines ?_ ?_
  · rw [List.forall_mem_map]
    exact fun line there => isLine_shownLine (noFeed_of_mem_lines there)
  · rw [List.getLast?_map]
    intro last
    obtain ⟨line, last, empty⟩ := Option.map_eq_some_iff.mp last
    exact shownLine_last_ne_nil (not_endsBlank_trimEnd d) last empty

/-- The lines of the description, each as it is shown, are the lines of what is shown and empty ones
behind them. -/
theorem map_shownLine_lines (d : List Char) :
    ∃ k, (lines d).map shownLine = lines (shownChars d) ++ List.replicate k [] := by
  obtain ⟨w, blank, whole⟩ := exists_trimEnd_append d
  obtain ⟨k, trimmed⟩ := lines_append_blank (trimEnd d) blank
  have shown := congrArg (List.map shownLine) trimmed
  have nothing : shownLine [] = [] := by decide
  rw [← whole, List.map_append, List.map_map, List.map_map, List.map_replicate, nothing] at shown
  have same : shownLine ∘ trimEnd = shownLine := funext shownLine_trimEnd
  rw [same, ← lines_shownChars] at shown
  exact ⟨k, shown⟩

/-- A line of what is shown is settled. -/
theorem isSettled_of_mem_lines {d line : List Char} (there : line ∈ lines (shownChars d)) :
    IsSettled line := by
  rw [lines_shownChars] at there
  obtain ⟨old, _, rfl⟩ := List.mem_map.mp there
  exact isSettled_shownLine old

theorem not_endsBlank_shownChars (d : List Char) : ¬EndsBlank (shownChars d) := by
  cases last : (lines (trimEnd d)).getLast? with
  | none =>
    rw [List.getLast?_eq_none_iff] at last
    rw [shownChars, last]
    exact not_endsBlank_nil
  | some line =>
    have shown : ((lines (trimEnd d)).map shownLine).getLast? = some (shownLine line) := by
      rw [List.getLast?_map, last]
      rfl
    have ending := getLast?_unlines shown (shownLine_last_ne_nil (not_endsBlank_trimEnd d) last)
    rw [shownChars, endsBlank_congr ending]
    exact (isSettled_shownLine line).ends

/-- What is shown is shown the same again. -/
theorem shownChars_shownChars (d : List Char) : shownChars (shownChars d) = shownChars d := by
  rw [shownChars, trimEnd_eq_self_iff.mpr (not_endsBlank_shownChars d), lines_shownChars,
    List.map_map]
  have same : shownLine ∘ shownLine = shownLine := funext shownLine_shownLine
  rw [same, shownChars]

/-- **A commit description is shown line by line.**  Showing it twice is showing it once.  What is
shown has as many lines as the description has without the blank characters at its end, and each of
them is what is shown for the line of the description in its place.  No line that is shown ends in a
blank character or begins with an old opening; and what is shown as a whole has no carriage return
before a line feed and does not end in a blank character. -/
theorem shown_line_by_line (d : String) :
    shown (shown d) = shown d ∧
      (lines (shown d).toList).length = (lines (trimEnd d.toList)).length ∧
      (∀ i < (lines (shown d).toList).length, ∃ line, (lines d.toList)[i]? = some line ∧
        (lines (shown d).toList)[i]? = some (shownLine line)) ∧
      (∀ line ∈ lines (shown d).toList, ¬EndsBlank line ∧ ¬"Reverted repo".toList <+: line ∧
        ¬"Recovered deleted directory".toList <+: line) ∧
      ¬['\r', '\n'] <:+: (shown d).toList ∧ ¬EndsBlank (shown d).toList := by
  have chars : (shown d).toList = shownChars d.toList := String.toList_ofList
  rw [chars]
  refine ⟨?_, ?_, ?_, ?_, ?_, not_endsBlank_shownChars _⟩
  · rw [shown, chars, shownChars_shownChars, shown]
  · rw [lines_shownChars, List.length_map]
  · intro i inside
    obtain ⟨k, whole⟩ := map_shownLine_lines d.toList
    have there : ((lines d.toList).map shownLine)[i]? = (lines (shownChars d.toList))[i]? := by
      rw [whole, List.getElem?_append_left inside]
    have found := List.getElem?_eq_getElem inside
    rw [← there, List.getElem?_map] at found ⊢
    obtain ⟨line, given, _⟩ := Option.map_eq_some_iff.mp found
    exact ⟨line, given, by rw [given, Option.map_some]⟩
  · intro line there
    have settled := isSettled_of_mem_lines there
    exact ⟨settled.ends, settled.closed _ List.mem_cons_self,
      settled.closed _ (List.mem_cons_of_mem _ List.mem_cons_self)⟩
  · refine not_isInfix_unlines ?_
    rw [List.forall_mem_map]
    exact fun line there => isLine_shownLine (noFeed_of_mem_lines there)

/-- Carriage returns are blank at the end of a line and stay inside one; a blank line stays between
others, and none stays at the end. -/
theorem shown_line_by_line_mixed_ends :
    let d := "Reverted repo\r\r\n\u3000\na\rb \nAuto merge by system\t\n\r\n"
    let shownLines := lines (shown d).toList
    shown d = "Reverted library\n\na\rb\nAutomatically merged by the system" ∧
      (3 < shownLines.length ∧ ∃ line, (lines d.toList)[3]? = some line ∧
        shownLines[3]? = some (shownLine line)) ∧
      ("a\rb".toList ∈ shownLines ∧ ¬EndsBlank "a\rb".toList ∧
        ¬"Reverted repo".toList <+: "a\rb".toList ∧
        ¬"Recovered deleted directory".toList <+: "a\rb".toList) := by
  intro d shownLines
  obtain ⟨_, _, lineByLine, plain, _⟩ := shown_line_by_line d
  have fourth : 3 < shownLines.length := by decide
  have third : "a\rb".toList ∈ shownLines := by decide
  exact ⟨by decide, ⟨fourth, lineByLine 3 fourth⟩, third, plain _ third⟩

end DaemonWatch.CommitDescription
