/-
  The sentence that a summary of deleted files is read from.

  1. **Specification.**  `HasSentence` says where in a text a sentence stands, and with which name
     and count.  `IsFirst` says which of the sentences in a text counts: none starts further left,
     none that starts there has a longer name, and none of those with that name has a longer count.

  2. **The search goes three layers down**: the longest run of a line behind which something follows
     (`longestRun?`), the sentence at the start of a text (`atStart?`), and the first start
     (`search?`).  Each layer is described by what it finds (`of_longestRun?`, `of_atStart?`,
     `isFirst_of_search?`) and by when it finds nothing (`longestRun?_eq_none_iff`,
     `atStart?_eq_none_iff`, `search?_eq_none_iff`).  The second description of one layer is what
     the first of the next one needs: the longest run wins only because nothing follows any longer
     one.

  3. **Result** (`first_sentence_read`).  Only one sentence of a text counts (`IsFirst.unique`), so
     the summary is read exactly as `IsFirst` says.
-/
import DaemonWatch.DeleteSummary
import Mathlib.Data.List.Basic

namespace DaemonWatch.DeleteSummary

open Text

/-! ## Runs -/

/-- That characters are a run of a line: there is at least one, and no line feed. -/
def IsRun (s : List Char) : Prop := s ≠ [] ∧ '\n' ∉ s

/-- A character before a run makes it longer, unless it is a line feed. -/
theorem isRun_cons_iff {c : Char} {s : List Char} :
    IsRun (c :: s) ↔ c ≠ '\n' ∧ (s = [] ∨ IsRun s) := by
  by_cases empty : s = []
  · simp [IsRun, empty, eq_comm]
  · simp [IsRun, empty, eq_comm]

/-- The first character of a run stands in front of what is split off. -/
theorem exists_of_cons_eq_append {c : Char} {s run rest : List Char} (isRun : IsRun run)
    (split : c :: s = run ++ rest) :
    ∃ tail, run = c :: tail ∧ s = tail ++ rest ∧ c ≠ '\n' ∧ (tail = [] ∨ IsRun tail) := by
  obtain ⟨d, tail, rfl⟩ := List.exists_cons_of_ne_nil isRun.1
  cases split
  exact ⟨tail, rfl, rfl, isRun_cons_iff.mp isRun⟩

variable {α : Type} {follow : List Char → Option α}

/-- No run is found when nothing follows any.  It is an induction over the text: a run is its first
character alone, or that in front of a run of the rest. -/
theorem longestRun?_eq_none_iff {s : List Char} :
    longestRun? follow s = none ↔
      ∀ run rest, IsRun run → s = run ++ rest → follow rest = none := by
  induction s with
  | nil =>
    refine iff_of_true rfl ?_
    intro run rest isRun split
    exact absurd (List.append_eq_nil_iff.mp split.symm).1 isRun.1
  | cons c s ih =>
    by_cases feed : c = '\n'
    · rw [longestRun?, if_pos feed]
      refine iff_of_true rfl ?_
      intro run rest isRun split
      obtain ⟨_, _, _, noFeed, _⟩ := exists_of_cons_eq_append isRun split
      exact absurd feed noFeed
    · rw [longestRun?, if_neg feed]
      cases longer : longestRun? follow s with
      | some found =>
        -- A longer run is found, so the right side must fail as well.
        rw [longer] at ih
        refine iff_of_false (by simp) ?_
        intro none
        refine absurd (ih.mpr ?_) (by simp)
        intro run rest isRun split
        refine none (c :: run) rest (isRun_cons_iff.mpr ⟨feed, .inr isRun⟩) ?_
        rw [split, List.cons_append]
      | none =>
        rw [longer] at ih
        simp only [Option.map_eq_none_iff]
        constructor
        · intro noneHere run rest isRun split
          obtain ⟨tail, rfl, rfl, _, tailRun⟩ := exists_of_cons_eq_append isRun split
          rcases tailRun with rfl | tailRun
          · exact noneHere
          · exact ih.mp rfl tail rest tailRun rfl
        · intro none
          exact none [c] s (isRun_cons_iff.mpr ⟨feed, .inl rfl⟩) rfl

/-- The run that is found is followed by what is found behind it, and it is the longest one that
anything follows. -/
theorem of_longestRun? {s run : List Char} {a : α} (found : longestRun? follow s = some (run, a)) :
    IsRun run ∧ (∃ rest, s = run ++ rest ∧ follow rest = some a) ∧
      ∀ run' rest', IsRun run' → s = run' ++ rest' → follow rest' ≠ none →
        run'.length ≤ run.length := by
  induction s generalizing run with
  | nil => cases found
  | cons c s ih =>
    by_cases feed : c = '\n'
    · rw [longestRun?, if_pos feed] at found
      cases found
    · rw [longestRun?, if_neg feed] at found
      cases longer : longestRun? follow s with
      | some more =>
        obtain ⟨tail, b⟩ := more
        simp only [longer, Option.some.injEq, Prod.mk.injEq] at found
        obtain ⟨rfl, rfl⟩ := found
        obtain ⟨isRun, ⟨rest, split, follows⟩, longest⟩ := ih longer
        refine ⟨isRun_cons_iff.mpr ⟨feed, .inr isRun⟩, ⟨rest, by rw [split, List.cons_append],
          follows⟩, ?_⟩
        intro run' rest' isRun' split' follows'
        obtain ⟨tail', rfl, tailSplit, _, tailRun⟩ := exists_of_cons_eq_append isRun' split'
        rcases tailRun with rfl | tailRun
        · simp
        · have := longest tail' rest' tailRun tailSplit follows'
          simpa using this
      | none =>
        simp only [longer, Option.map_eq_some_iff, Prod.mk.injEq] at found
        obtain ⟨_, follows, rfl, rfl⟩ := found
        refine ⟨isRun_cons_iff.mpr ⟨feed, .inl rfl⟩, ⟨s, rfl, follows⟩, ?_⟩
        intro run' rest' isRun' split' follows'
        obtain ⟨tail', rfl, tailSplit, _, tailRun⟩ := exists_of_cons_eq_append isRun' split'
        rcases tailRun with rfl | tailRun
        · exact Nat.le_refl 1
        · exact absurd (longestRun?_eq_none_iff.mp longer tail' rest' tailRun tailSplit) follows'

/-! ## Sentences -/

/-- That a text has a sentence with a name and a count behind `before`.  A text can have several of
them, even at one place, and one can stand within the name of another. -/
structure HasSentence (t before name count : List Char) : Prop where
  nameRun : IsRun name
  countRun : IsRun count
  stands : ∃ after, t = before ++ sentence name count ++ after

/-- That the sentence behind `before` is the one that counts: it starts leftmost, its name is the
longest of those that start there, and its count is the longest of those with that name. -/
structure IsFirst (t before name count : List Char) : Prop where
  here : HasSentence t before name count
  leftmost : ∀ {before' name' count'}, HasSentence t before' name' count' →
    before.length ≤ before'.length
  longestName : ∀ {name' count'}, HasSentence t before name' count' → name'.length ≤ name.length
  longestCount : ∀ {count'}, HasSentence t before name count' → count'.length ≤ count.length

theorem sentence_ne_nil (name count : List Char) : sentence name count ≠ [] := by
  have opens : opening ≠ [] := by decide
  simp only [sentence, List.append_assoc]
  exact List.append_ne_nil_of_left_ne_nil opens _

/-- A sentence further on is one of the text without its first character. -/
theorem hasSentence_cons_iff {x y : Char} {t before name count : List Char} :
    HasSentence (x :: t) (y :: before) name count ↔ x = y ∧ HasSentence t before name count := by
  constructor
  · rintro ⟨nameRun, countRun, after, stands⟩
    cases stands
    exact ⟨rfl, nameRun, countRun, after, rfl⟩
  · rintro ⟨rfl, nameRun, countRun, after, rfl⟩
    exact ⟨nameRun, countRun, after, rfl⟩

/-- A sentence at the start is read from left to right. -/
theorem hasSentence_nil_iff {t name count : List Char} :
    HasSentence t [] name count ↔
      IsRun name ∧ IsRun count ∧
        ∃ after, t = opening ++ (name ++ (middle ++ (count ++ (closing ++ after)))) := by
  constructor
  · rintro ⟨nameRun, countRun, after, rfl⟩
    exact ⟨nameRun, countRun, after, by simp only [sentence, List.nil_append, List.append_assoc]⟩
  · rintro ⟨nameRun, countRun, after, rfl⟩
    exact ⟨nameRun, countRun, after, by simp only [sentence, List.nil_append, List.append_assoc]⟩

/-! ## At the start of a text -/

/-- The count that is found is the longest one that the closing follows. -/
theorem of_count? {s count : List Char} (found : count? s = some count) :
    IsRun count ∧ (∃ after, s = count ++ (closing ++ after)) ∧
      ∀ count' after', IsRun count' → s = count' ++ (closing ++ after') →
        count'.length ≤ count.length := by
  obtain ⟨⟨run, after⟩, longest, rfl⟩ := Option.map_eq_some_iff.mp found
  obtain ⟨isRun, ⟨rest, split, follows⟩, longest⟩ := of_longestRun? longest
  rw [List.isPrefixOf?_eq_some_iff_append_eq] at follows
  refine ⟨isRun, ⟨after, by rw [follows, split]⟩, ?_⟩
  intro count' after' isRun' split'
  refine longest count' _ isRun' split' ?_
  rw [List.isPrefixOf?_eq_some_iff_append_eq.mpr rfl]
  exact Option.some_ne_none after'

/-- No count is found when the closing follows none. -/
theorem count?_eq_none_iff {s : List Char} :
    count? s = none ↔ ∀ count after, IsRun count → s ≠ count ++ (closing ++ after) := by
  rw [count?, Option.map_eq_none_iff, longestRun?_eq_none_iff]
  constructor
  · intro none count after isRun split
    have noClosing := none count _ isRun split
    rw [List.isPrefixOf?_eq_some_iff_append_eq.mpr rfl] at noClosing
    cases noClosing
  · intro none count rest isRun split
    refine Option.eq_none_iff_forall_ne_some.mpr ?_
    intro after follows
    rw [List.isPrefixOf?_eq_some_iff_append_eq] at follows
    exact none count after isRun (by rw [split, follows])

/-- The middle, and a count behind it, follow a name. -/
theorem middle_bind_eq_some_iff {rest count : List Char} :
    (middle.isPrefixOf? rest).bind count? = some count ↔
      ∃ s, rest = middle ++ s ∧ count? s = some count := by
  simp only [Option.bind_eq_some_iff, List.isPrefixOf?_eq_some_iff_append_eq, eq_comm]

/-- Something follows a name that the middle, a count and the closing follow. -/
theorem middle_bind_ne_none {count after : List Char} (isRun : IsRun count) :
    (middle.isPrefixOf? (middle ++ (count ++ (closing ++ after)))).bind count? ≠ none := by
  rw [List.isPrefixOf?_eq_some_iff_append_eq.mpr rfl, Option.bind_some, Ne, count?_eq_none_iff]
  intro none
  exact none count after isRun rfl

/-- The sentence that a text starts with, if one is found, has the longest name, and with that name
the longest count. -/
theorem of_atStart? {t name count : List Char} (found : atStart? t = some (name, count)) :
    HasSentence t [] name count ∧
      (∀ {name' count'}, HasSentence t [] name' count' → name'.length ≤ name.length) ∧
      ∀ {count'}, HasSentence t [] name count' → count'.length ≤ count.length := by
  obtain ⟨s, opens, found⟩ := Option.bind_eq_some_iff.mp found
  rw [List.isPrefixOf?_eq_some_iff_append_eq] at opens
  obtain ⟨nameRun, ⟨rest, split, follows⟩, longestName⟩ := of_longestRun? found
  obtain ⟨tail, rfl, counted⟩ := middle_bind_eq_some_iff.mp follows
  obtain ⟨countRun, ⟨after, rfl⟩, longestCount⟩ := of_count? counted
  subst split
  refine ⟨hasSentence_nil_iff.mpr ⟨nameRun, countRun, after, opens.symm⟩, ?_, ?_⟩
  · intro name' count' other
    obtain ⟨nameRun', countRun', after', stands⟩ := hasSentence_nil_iff.mp other
    rw [← opens] at stands
    exact longestName name' _ nameRun' (List.append_cancel_left stands) (middle_bind_ne_none countRun')
  · intro count' other
    obtain ⟨_, countRun', after', stands⟩ := hasSentence_nil_iff.mp other
    rw [← opens] at stands
    have tails := List.append_cancel_left (List.append_cancel_left (List.append_cancel_left stands))
    exact longestCount count' after' countRun' tails

/-- No sentence is found at the start of a text only when there is none. -/
theorem atStart?_eq_none_iff {t : List Char} :
    atStart? t = none ↔ ∀ name count, ¬HasSentence t [] name count := by
  constructor
  · intro none name count has
    obtain ⟨nameRun, countRun, after, rfl⟩ := hasSentence_nil_iff.mp has
    rw [atStart?, List.isPrefixOf?_eq_some_iff_append_eq.mpr rfl, Option.bind_some, nameAndCount?,
      longestRun?_eq_none_iff] at none
    exact middle_bind_ne_none countRun (none name _ nameRun rfl)
  · intro none
    refine Option.eq_none_iff_forall_ne_some.mpr ?_
    rintro ⟨name, count⟩ found
    exact none name count (of_atStart? found).1

/-! ## In a text -/

/-- No sentence is found in a text only when there is none.  A sentence starts with the text, which
the layer below decides, or it is one of the text without its first character. -/
theorem search?_eq_none_iff {t : List Char} :
    search? t = none ↔ ∀ before name count, ¬HasSentence t before name count := by
  induction t with
  | nil =>
    refine iff_of_true rfl ?_
    intro before name count has
    obtain ⟨after, stands⟩ := has.stands
    have empty := (List.append_eq_nil_iff.mp stands.symm).1
    exact sentence_ne_nil name count (List.append_eq_nil_iff.mp empty).2
  | cons x t ih =>
    rw [search?]
    cases start : atStart? (x :: t) with
    | some found =>
      refine iff_of_false (Option.some_ne_none found) ?_
      intro none
      exact none [] _ _ (of_atStart? start).1
    | none =>
      rw [ih]
      constructor
      · intro none before name count has
        cases before with
        | nil => exact atStart?_eq_none_iff.mp start name count has
        | cons y before => exact none before name count (hasSentence_cons_iff.mp has).2
      · intro none before name count has
        exact none (x :: before) name count (hasSentence_cons_iff.mpr ⟨rfl, has⟩)

/-- A sentence that is found in a text is the one that counts.  One that starts with the text is
leftmost; where none does, any other starts further on, and comparing goes on in the rest. -/
theorem isFirst_of_search? {t name count : List Char} (found : search? t = some (name, count)) :
    ∃ before, IsFirst t before name count := by
  induction t with
  | nil => cases found
  | cons x t ih =>
    rw [search?] at found
    cases start : atStart? (x :: t) with
    | some here =>
      rw [start] at found
      cases found
      obtain ⟨has, longestName, longestCount⟩ := of_atStart? start
      exact ⟨[], has, fun _ => Nat.zero_le _, longestName, longestCount⟩
    | none =>
      rw [start] at found
      obtain ⟨before, first⟩ := ih found
      refine ⟨x :: before, hasSentence_cons_iff.mpr ⟨rfl, first.here⟩, ?_, ?_, ?_⟩
      · intro before' name' count' other
        cases before' with
        | nil => exact absurd other (atStart?_eq_none_iff.mp start name' count')
        | cons y before' =>
          exact Nat.succ_le_succ (first.leftmost (hasSentence_cons_iff.mp other).2)
      · intro name' count' other
        exact first.longestName (hasSentence_cons_iff.mp other).2
      · intro count' other
        exact first.longestCount (hasSentence_cons_iff.mp other).2

/-- Only one sentence of a text counts. -/
theorem IsFirst.unique {t before before' name name' count count' : List Char}
    (first : IsFirst t before name count) (first' : IsFirst t before' name' count') :
    name = name' ∧ count = count' := by
  obtain ⟨_, _, after, stands⟩ := first.here
  obtain ⟨_, _, after', stands'⟩ := first'.here
  rw [List.append_assoc] at stands stands'
  obtain ⟨rfl, sentences⟩ := List.append_inj (stands.symm.trans stands')
    (Nat.le_antisymm (first.leftmost first'.here) (first'.leftmost first.here))
  simp only [sentence, List.append_assoc, List.append_cancel_left_eq] at sentences
  obtain ⟨rfl, counts⟩ := List.append_inj sentences
    (Nat.le_antisymm (first'.longestName first.here) (first.longestName first'.here))
  rw [List.append_cancel_left_eq] at counts
  obtain ⟨rfl, _⟩ := List.append_inj counts
    (Nat.le_antisymm (first'.longestCount first.here) (first.longestCount first'.here))
  exact ⟨rfl, rfl⟩

/-- **The sentence that a summary is read from.**  A summary is read when its text without the blank
characters around it has a sentence with a name and a count anywhere, and then name and count are
those of the sentence that counts: the leftmost one, and of those that start there the one with the
longest name and, with that name, the longest count. -/
theorem first_sentence_read (summary : String) :
    ((ofText? summary).isSome ↔
      ∃ before name count, HasSentence (trim summary.toList) before name count) ∧
      ∀ d : DeleteSummary, ofText? summary = some d ↔
        ∃ before, IsFirst (trim summary.toList) before d.name.toList d.count.toList := by
  constructor
  · rw [ofText?, Option.isSome_map, Option.isSome_iff_ne_none, Ne, search?_eq_none_iff]
    simp only [not_forall, not_not]
  · intro d
    rw [ofText?, Option.map_eq_some_iff]
    constructor
    · rintro ⟨⟨name, count⟩, found, rfl⟩
      simpa only [String.toList_ofList] using isFirst_of_search? found
    · rintro ⟨before, first⟩
      obtain ⟨⟨name, count⟩, found⟩ : ∃ found, search? (trim summary.toList) = some found := by
        refine Option.ne_none_iff_exists'.mp ?_
        rw [Ne, search?_eq_none_iff]
        intro none
        exact none before _ _ first.here
      obtain ⟨_, found'⟩ := isFirst_of_search? found
      obtain ⟨sameName, sameCount⟩ := found'.unique first
      refine ⟨(name, count), found, ?_⟩
      rw [sameName, sameCount, String.ofList_toList, String.ofList_toList]

/-- The name goes to the last place that it can end at, also past the words of the sentence. -/
example :
    ofText? "\u3000x Deleted \"a\" and b\" and 2 more files. more files.\n" =
      some ⟨"a\" and b", "2 more files."⟩ := by
  decide

end DaemonWatch.DeleteSummary
