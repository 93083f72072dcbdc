/-
  The text of the question for a deletion of files.

  The daemon words a deletion as one sentence, and the text of the question is the sentence that
  counts in the summary (`IsFirst`).

  1. **Names may be anything.**  A name can itself hold the end of a sentence and the start of
     another.  A count without a quotation mark fixes where the name ends all the same, since the
     mark behind the name is then the last one (`length_le_of_mark`).  So a summary that is one
     sentence is read as that sentence (`isFirst_sentence`).

  2. **The crux (`IsFirst.alone`)**: a sentence that counts in some text counts on its own as well,
     since what stands in a part of a text stands in the text (`HasSentence.within`), and would have
     counted there.

  3. **Reading.**  The text of the question is empty, or it is the sentence that counts in the
     summary (`deleteFilesText_cases`).  With 2, reading the text of a question gives the same text
     again (`deleteFilesText_sentence`).  `question_text_faithful` is both, with blank characters
     around the sentence.
-/
import DaemonWatch.Proofs.DeletionSentence
import DaemonWatch.Proofs.Trimming
import DaemonWatch.Wording

namespace DaemonWatch.DeleteSummary

open Text

/-! ## Sentences on their own -/

variable {t before name count : List Char}

theorem hasSentence_sentence (nameRun : IsRun name) (countRun : IsRun count) :
    HasSentence (sentence name count) [] name count :=
  ⟨nameRun, countRun, [], (List.append_nil _).symm⟩

/-- A sentence in a part of a text is one in the text. -/
theorem HasSentence.within (has : HasSentence t before name count) (front back : List Char) :
    HasSentence (front ++ t ++ back) (front ++ before) name count := by
  obtain ⟨nameRun, countRun, after, rfl⟩ := has
  exact ⟨nameRun, countRun, after ++ back, by simp only [List.append_assoc]⟩

/-- The sentence that counts in a text counts on its own, too. -/
theorem IsFirst.alone (first : IsFirst t before name count) :
    IsFirst (sentence name count) [] name count := by
  obtain ⟨nameRun, countRun, after, rfl⟩ := first.here
  -- Whatever starts where the sentence starts, starts there in the text as well.
  have inText : ∀ {name' count'}, HasSentence (sentence name count) [] name' count' →
      HasSentence (before ++ sentence name count ++ after) before name' count' := by
    intro name' count' other
    simpa only [List.append_nil] using other.within before after
  refine ⟨hasSentence_sentence nameRun countRun, fun _ => Nat.zero_le _, ?_, ?_⟩
  · exact fun other => first.longestName (inText other)
  · exact fun other => first.longestCount (inText other)

/-- Of two ways to write a text around a mark, the one whose rest lacks the mark starts with as
much. -/
theorem length_le_of_mark {mark : Char} {s s' rest rest' : List Char} (unmarked : mark ∉ rest)
    (same : s ++ mark :: rest = s' ++ mark :: rest') : s'.length ≤ s.length := by
  obtain ⟨more, rfl, tails⟩ | ⟨more, rfl, _⟩ := List.append_eq_append_iff.mp same
  · cases more with
    | nil => rw [List.append_nil]
    | cons m more =>
      -- The mark of the longer beginning would lie in the rest of the shorter one.
      cases tails
      exact absurd (by simp) unmarked
  · simp

/-- With a count that has no quotation mark, a sentence counts as it is written. -/
theorem isFirst_sentence (nameRun : IsRun name) (countRun : IsRun count) (unquoted : '"' ∉ count) :
    IsFirst (sentence name count) [] name count := by
  refine ⟨hasSentence_sentence nameRun countRun, fun _ => Nat.zero_le _, ?_, ?_⟩
  · intro name' count' other
    obtain ⟨_, _, after, stands⟩ := hasSentence_nil_iff.mp other
    simp only [sentence, List.append_assoc, List.append_cancel_left_eq] at stands
    -- The quotation mark at the start of the middle is the last one of the sentence.
    have marked : middle = '"' :: " and ".toList := by decide
    rw [marked, List.cons_append, List.cons_append] at stands
    refine length_le_of_mark ?_ stands
    have unmarked : '"' ∉ " and ".toList ∧ '"' ∉ closing := by decide
    simp only [List.mem_append, not_or]
    exact ⟨unmarked.1, unquoted, unmarked.2⟩
  · intro count' other
    obtain ⟨_, _, after, stands⟩ := hasSentence_nil_iff.mp other
    simp only [sentence, List.append_assoc, List.append_cancel_left_eq] at stands
    have lengths := congrArg List.length stands
    simp only [List.length_append] at lengths
    omega

/-! ## Reading -/

/-- The sentence that counts is found. -/
theorem search?_of_isFirst (first : IsFirst t before name count) :
    search? t = some (name, count) := by
  cases found : search? t with
  | none => exact absurd first.here (search?_eq_none_iff.mp found before name count)
  | some other =>
    obtain ⟨name', count'⟩ := other
    obtain ⟨_, first'⟩ := isFirst_of_search? found
    obtain ⟨rfl, rfl⟩ := first'.unique first
    rfl

/-! ## The text of the question -/

theorem not_endsBlank_sentence (name count : List Char) : ¬EndsBlank (sentence name count) := by
  have closed : closing ≠ [] ∧ ¬EndsBlank closing := by decide
  rw [sentence, endsBlank_append_iff closed.1]
  exact closed.2

/-- Trimming takes the padding off a sentence. -/
theorem trim_padded_sentence (name count : List Char) {before after : List Char}
    (blankBefore : ∀ c ∈ before, isBlank c = true) (blankAfter : ∀ c ∈ after, isBlank c = true) :
    trim (before ++ sentence name count ++ after) = sentence name count := by
  have starts : sentence name count =
      'D' :: (opening.tail ++ name ++ middle ++ count ++ closing) := rfl
  have ending := not_endsBlank_sentence name count
  rw [starts] at ending ⊢
  exact trim_padded blankBefore blankAfter (by decide) ending

theorem feed_notMem_sentence (nameRun : IsRun name) (countRun : IsRun count) :
    '\n' ∉ sentence name count := by
  have fixed : '\n' ∉ opening ∧ '\n' ∉ middle ∧ '\n' ∉ closing := by decide
  simp only [sentence, List.mem_append, not_or]
  exact ⟨⟨⟨⟨fixed.1, nameRun.2⟩, fixed.2.1⟩, countRun.2⟩, fixed.2.2⟩

/-- The sentence of a name and a count in words. -/
theorem ofList_sentence (name count : String) :
    String.ofList (sentence name.toList count.toList) =
      "Deleted \"" ++ name ++ "\" and " ++ count ++ " more files." := by
  refine String.toList_injective ?_
  simp only [String.toList_ofList, String.toList_append, sentence]
  rfl

/-- A summary in which a sentence counts is read, and the text of the question is that sentence. -/
theorem read_of_isFirst {summary : String}
    (first : IsFirst (trim summary.toList) before name count) :
    ofText? summary = some ⟨String.ofList name, String.ofList count⟩ ∧
      Wording.deleteFilesText summary = String.ofList (sentence name count) := by
  have read : ofText? summary = some ⟨String.ofList name, String.ofList count⟩ := by
    rw [ofText?, search?_of_isFirst first]
    rfl
  refine ⟨read, ?_⟩
  simp only [Wording.deleteFilesText, read, String.toList_ofList]

/-- The text of the question is empty, or it is the sentence that counts in the summary. -/
theorem deleteFilesText_cases (summary : String) :
    Wording.deleteFilesText summary = "" ∨
      ∃ before name count, IsFirst (trim summary.toList) before name count ∧
        Wording.deleteFilesText summary = String.ofList (sentence name count) := by
  cases found : search? (trim summary.toList) with
  | none =>
    left
    simp only [Wording.deleteFilesText, ofText?, found]
    rfl
  | some parts =>
    right
    obtain ⟨before, first⟩ := isFirst_of_search? found
    exact ⟨before, _, _, first, (read_of_isFirst first).2⟩

/-- The text of the question for a sentence that counts somewhere is that sentence. -/
theorem deleteFilesText_sentence (first : IsFirst t before name count) :
    Wording.deleteFilesText (String.ofList (sentence name count)) =
      String.ofList (sentence name count) := by
  have bare : ∀ c ∈ ([] : List Char), isBlank c = true := by simp
  have trimmed : trim (sentence name count) = sentence name count := by
    simpa using trim_padded_sentence name count bare bare
  have alone := first.alone
  rw [← trimmed, ← String.toList_ofList (l := sentence name count)] at alone
  exact (read_of_isFirst alone).2

/-- **The text of the question for a deletion is faithful.**  A sentence with a name and a count
that stay on one line, the count without a quotation mark, is read as just that name and that count,
whatever blank characters surround it, and the text of the question is the sentence.  And for every
summary the text of the question is empty, or it is a part of the summary that stays on one line;
and the text of the question for that text is the same again. -/
theorem question_text_faithful :
    (∀ name count before after : String, IsRun name.toList → IsRun count.toList →
      '"' ∉ count.toList → (∀ c ∈ before.toList, isBlank c = true) →
      (∀ c ∈ after.toList, isBlank c = true) →
        let sentence := "Deleted \"" ++ name ++ "\" and " ++ count ++ " more files."
        let padded := before ++ sentence ++ after
        ofText? padded = some ⟨name, count⟩ ∧ Wording.deleteFilesText padded = sentence) ∧
      ∀ summary : String,
        let text := Wording.deleteFilesText summary
        (text = "" ∨ text.toList <:+: summary.toList ∧ '\n' ∉ text.toList) ∧
          Wording.deleteFilesText text = text := by
  constructor
  · intro name count before after nameRun countRun unquoted blankBefore blankAfter sentence padded
    have worded : sentence = String.ofList (DeleteSummary.sentence name.toList count.toList) :=
      (ofList_sentence name count).symm
    have first := isFirst_sentence nameRun countRun unquoted
    have trimmed := trim_padded_sentence name.toList count.toList blankBefore blankAfter
    have list : padded.toList =
        before.toList ++ DeleteSummary.sentence name.toList count.toList ++ after.toList := by
      simp only [padded, worded, String.toList_append, String.toList_ofList]
    rw [← trimmed, ← list] at first
    simpa only [worded, String.ofList_toList] using read_of_isFirst first
  · intro summary text
    rcases deleteFilesText_cases summary with empty | ⟨before, name, count, first, worded⟩
    · simp only [text, empty]
      exact ⟨.inl trivial, by decide⟩
    · obtain ⟨nameRun, countRun, after, stands⟩ := first.here
      have part : sentence name count <:+: trim summary.toList := ⟨before, after, stands.symm⟩
      simp only [text, worded, String.toList_ofList]
      exact ⟨.inr ⟨part.trans (trim_isInfix_self summary.toList),
        feed_notMem_sentence nameRun countRun⟩, deleteFilesText_sentence first⟩

/-- A name that itself reads like the end of one sentence and the start of another. -/
theorem question_text_faithful_misleading_name :
    let name := "a\" and 1 more files. Deleted \"b"
    let sentence := "Deleted \"a\" and 1 more files. Deleted \"b\" and 2 more files."
    let padded := "\u3000\t" ++ sentence ++ "\r\n"
    (IsRun name.toList ∧ IsRun "2".toList ∧ '"' ∉ "2".toList) ∧
      (∀ c ∈ "\u3000\t".toList, isBlank c = true) ∧ (∀ c ∈ "\r\n".toList, isBlank c = true) ∧
      ofText? padded = some ⟨name, "2"⟩ ∧ Wording.deleteFilesText padded = sentence := by
  intro name sentence padded
  have nameRun : IsRun name.toList := ⟨by decide, by decide⟩
  have countRun : IsRun "2".toList := ⟨by decide, by decide⟩
  have before : ∀ c ∈ "\u3000\t".toList, isBlank c = true := List.all_eq_true.mp (by decide)
  have after : ∀ c ∈ "\r\n".toList, isBlank c = true := List.all_eq_true.mp (by decide)
  have worded : "Deleted \"" ++ name ++ "\" and " ++ "2" ++ " more files." = sentence := by decide
  have read := question_text_faithful.1 name "2" _ _ nameRun countRun (by decide) before after
  rw [worded] at read
  exact ⟨⟨nameRun, countRun, by decide⟩, before, after, read⟩

end DaemonWatch.DeleteSummary
