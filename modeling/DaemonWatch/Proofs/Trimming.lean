/-
  What trimming does to a text.

  1. **Dropping from the end** is what Mathlib calls `List.rdropWhile`.  A run at the end makes no
     difference to what is left (`dropEnd_append`), what is left does not end in one
     (`not_of_getLast?_dropEnd`), and what is dropped is one (`exists_dropEnd_append`).  These three
     fix the result.

  2. **The end of a text.**  `EndsBlank` says that a text ends in a blank character.  Trimming its
     end takes a text to the one beginning of it that does not end so and that only blank characters
     follow (`not_endsBlank_trimEnd`, `exists_trimEnd_append`).

  3. **Both ends.**  Trimming takes blank padding off a text that neither starts nor ends in a blank
     character (`trim_padded`), and nothing but blank padding off any (`exists_trim_append`).

  4. **The case of letters** has no say in what is blank (`isBlank_toLower`), so small letters can
     be made before or after trimming.
-/
import DaemonWatch.Text.Blank
import Mathlib.Data.List.DropRight

namespace DaemonWatch.Text

/-! ## Dropping from the end -/

theorem dropEnd_eq_rdropWhile {α : Type} (p : α → Bool) (l : List α) :
    dropEnd p l = l.rdropWhile p := rfl

/-- A run at the end makes no difference. -/
theorem dropEnd_append {α : Type} {p : α → Bool} (l : List α) {w : List α}
    (run : ∀ a ∈ w, p a = true) : dropEnd p (l ++ w) = dropEnd p l := by
  have skipped : ∀ a ∈ w.reverse, p a = true := fun a there => run a (List.mem_reverse.mp there)
  rw [dropEnd, dropEnd, List.reverse_append, List.dropWhile_append_of_pos skipped]

/-- Everything is dropped when all of it is a run. -/
theorem dropEnd_eq_nil_iff {α : Type} {p : α → Bool} {l : List α} :
    dropEnd p l = [] ↔ ∀ a ∈ l, p a = true :=
  List.rdropWhile_eq_nil_iff

/-- Nothing is dropped when the last element does not belong to a run. -/
theorem dropEnd_eq_self_iff {α : Type} {p : α → Bool} {l : List α} :
    dropEnd p l = l ↔ ∀ a ∈ l.getLast?, ¬p a = true := by
  rw [dropEnd_eq_rdropWhile, List.rdropWhile_eq_self_iff]
  constructor
  · intro plain a last
    have filled : l ≠ [] := by
      rintro rfl
      cases last
    rw [Option.mem_def, List.getLast?_eq_getLast_of_ne_nil filled, Option.some_inj] at last
    exact last ▸ plain filled
  · intro plain filled
    exact plain _ (List.getLast?_eq_getLast_of_ne_nil filled)

/-- What is left does not end in an element of a run. -/
theorem not_of_getLast?_dropEnd {α : Type} {p : α → Bool} {l : List α} :
    ∀ a ∈ (dropEnd p l).getLast?, ¬p a = true :=
  dropEnd_eq_self_iff.mp (List.rdropWhile_idempotent p l)

/-- What is dropped from the end is a run. -/
theorem exists_dropEnd_append {α : Type} (p : α → Bool) (l : List α) :
    ∃ w, (∀ a ∈ w, p a = true) ∧ l = dropEnd p l ++ w := by
  have whole : dropEnd p l ++ l.rtakeWhile p = l := dropEnd_append_takeWhile p l
  exact ⟨l.rtakeWhile p, fun _ => List.mem_rtakeWhile_imp, whole.symm⟩

/-! ## The end of a text -/

/-- That a text ends in a blank character. -/
def EndsBlank (s : List Char) : Prop := ∃ c ∈ s.getLast?, isBlank c = true

instance (s : List Char) : Decidable (EndsBlank s) :=
  decidable_of_iff (s.getLast?.any isBlank = true) (Option.any_eq_true isBlank s.getLast?)

/-- Only the last character tells whether a text ends in a blank one. -/
theorem endsBlank_congr {s t : List Char} (same : s.getLast? = t.getLast?) :
    EndsBlank s ↔ EndsBlank t := by
  rw [EndsBlank, EndsBlank, same]

theorem not_endsBlank_nil : ¬EndsBlank [] := by decide

/-- What stands at the end tells whether the whole ends in a blank character. -/
theorem endsBlank_append_iff {s t : List Char} (filled : t ≠ []) :
    EndsBlank (s ++ t) ↔ EndsBlank t :=
  endsBlank_congr (List.getLast?_append_of_ne_nil s filled)

/-- Trimming the end does nothing to the texts that do not end in a blank character. -/
theorem trimEnd_eq_self_iff {s : List Char} : trimEnd s = s ↔ ¬EndsBlank s := by
  rw [trimEnd, dropEnd_eq_self_iff, EndsBlank]
  constructor
  · rintro plain ⟨c, last, blank⟩
    exact plain c last blank
  · intro plain c last blank
    exact plain ⟨c, last, blank⟩

theorem trimEnd_trimEnd (s : List Char) : trimEnd (trimEnd s) = trimEnd s :=
  List.rdropWhile_idempotent _ _

theorem not_endsBlank_trimEnd (s : List Char) : ¬EndsBlank (trimEnd s) :=
  trimEnd_eq_self_iff.mp (trimEnd_trimEnd s)

theorem trimEnd_eq_nil_iff {s : List Char} : trimEnd s = [] ↔ ∀ c ∈ s, isBlank c = true :=
  dropEnd_eq_nil_iff

/-- Blank characters at the end make no difference. -/
theorem trimEnd_append_blank (s : List Char) {w : List Char} (blank : ∀ c ∈ w, isBlank c = true) :
    trimEnd (s ++ w) = trimEnd s :=
  dropEnd_append s blank

/-- What is trimmed off the end is blank. -/
theorem exists_trimEnd_append (s : List Char) :
    ∃ w, (∀ c ∈ w, isBlank c = true) ∧ s = trimEnd s ++ w :=
  exists_dropEnd_append isBlank s

/-! ## Both ends -/

/-- A trimmed text is part of the text. -/
theorem trim_isInfix_self (s : List Char) : trim s <:+: s :=
  (List.rdropWhile_prefix isBlank (s.dropWhile isBlank)).isInfix.trans
    (List.dropWhile_suffix isBlank).isInfix

/-- Trimming takes blank padding off a text that neither starts nor ends in a blank character. -/
theorem trim_padded {before s after : List Char} {c : Char}
    (blankBefore : ∀ b ∈ before, isBlank b = true) (blankAfter : ∀ b ∈ after, isBlank b = true)
    (start : isBlank c = false) (ending : ¬EndsBlank (c :: s)) :
    trim (before ++ (c :: s) ++ after) = c :: s := by
  have begun : (before ++ (c :: s) ++ after).dropWhile isBlank = c :: s ++ after := by
    rw [List.append_assoc, List.dropWhile_append_of_pos blankBefore]
    exact List.dropWhile_cons_of_neg (Bool.eq_false_iff.mp start)
  rw [trim, begun, trimEnd_append_blank _ blankAfter, trimEnd_eq_self_iff]
  exact ending

/-- What is trimmed off the two ends is blank. -/
theorem exists_trim_append (s : List Char) :
    ∃ before after, s = before ++ trim s ++ after ∧ (∀ c ∈ before, isBlank c = true) ∧
      ∀ c ∈ after, isBlank c = true := by
  obtain ⟨after, blank, whole⟩ := exists_trimEnd_append (s.dropWhile isBlank)
  refine ⟨s.takeWhile isBlank, after, ?_, fun c => List.mem_takeWhile_imp, blank⟩
  rw [trim, List.append_assoc, ← whole, List.takeWhile_append_dropWhile]

/-! ## The case of letters -/

/-- No letter is blank. -/
theorem isBlank_eq_false {c : Char} (letter : 0x41 ≤ c.toNat ∧ c.toNat ≤ 0x7A) :
    isBlank c = false := by
  simp only [isBlank, blankRanges, List.any_eq_false, List.forall_mem_cons, Bool.and_eq_true,
    decide_eq_true_eq]
  grind

theorem isBlank_toLower (c : Char) : isBlank c.toLower = isBlank c := by
  unfold Char.toLower
  split
  next capital =>
    have bounds : 0x41 ≤ c.toNat ∧ c.toNat ≤ 0x5A := capital
    have small : (c.val + 32).toNat = c.toNat + 32 := by
      rw [UInt32.toNat_add]
      show (c.toNat + 32) % 4294967296 = c.toNat + 32
      omega
    rw [isBlank_eq_false (c := c) (by omega), isBlank_eq_false]
    show 0x41 ≤ (c.val + 32).toNat ∧ (c.val + 32).toNat ≤ 0x7A
    omega
  next => rfl

theorem endsBlank_map_toLower {s : List Char} :
    EndsBlank (s.map Char.toLower) ↔ EndsBlank s := by
  simp only [EndsBlank, List.getLast?_map, Option.mem_def, Option.map_eq_some_iff]
  constructor
  · rintro ⟨_, ⟨c, last, rfl⟩, blank⟩
    rw [isBlank_toLower] at blank
    exact ⟨c, last, blank⟩
  · rintro ⟨c, last, blank⟩
    rw [← isBlank_toLower] at blank
    exact ⟨_, ⟨c, last, rfl⟩, blank⟩

end DaemonWatch.Text
