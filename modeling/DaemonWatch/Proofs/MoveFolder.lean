/-
  The folder that the message of a move names.

  1. **Layout** (`Path.IsLaidOut`): a path that is more than slashes is a folder, a gap of slashes,
     a last component, and slashes at the end.  Every such path is laid out
     (`Path.exists_isLaidOut`).

  2. **The crux (`Path.IsLaidOut.parent_eq`)**: the parent keeps the slashes of the gap but one.  So
     it does not end in a slash unless two slashes or more stand before the last component
     (`Path.endsInSlash_parent_iff`).

  3. **The message** puts a slash behind the parent.  The folder that is named has therefore all the
     slashes of the gap: it ends in just one, unless the path is doubled there (`Path.IsDoubled`).
     That is `folder_of_move`, for every stage, and `doubled_slash_named` is such a path.
-/
import DaemonWatch.Proofs.PathParts
import DaemonWatch.Wording

namespace DaemonWatch

namespace Path

/-! ## Texts that end in slashes -/

/-- That a text ends in a slash and in no more than one. -/
def EndsInOneSlash (s : String) : Prop := ∃ rest, s = rest ++ "/" ∧ ¬EndsInSlash rest

theorem slashes_zero : slashes 0 = "" := rfl

theorem slashes_succ (n : Nat) : slashes (n + 1) = slashes n ++ "/" := by
  rw [← String.toList_inj, String.toList_append, toList_slashes, toList_slashes,
    List.replicate_succ']
  rfl

/-- Slashes behind a text that does not end in one. -/
theorem endsInSlash_append_slashes_iff {s : String} (ending : ¬EndsInSlash s) {n : Nat} :
    EndsInSlash (s ++ slashes n) ↔ n ≠ 0 := by
  cases n with
  | zero =>
    rw [slashes_zero, String.append_empty]
    exact iff_of_false ending (fun more => more rfl)
  | succ n =>
    rw [slashes_succ, ← String.append_assoc]
    exact iff_of_true (endsInSlash_append_slash _) (Nat.succ_ne_zero n)

/-- With a slash put behind it, a text ends in just one if it did not end in one before. -/
theorem endsInOneSlash_append_slash_iff (s : String) :
    EndsInOneSlash (s ++ "/") ↔ ¬EndsInSlash s := by
  constructor
  · rintro ⟨rest, same, ending⟩
    rw [String.append_left_inj] at same
    rwa [same]
  · intro ending
    exact ⟨s, rfl, ending⟩

/-! ## How a path is laid out -/

/-- A path that is more than slashes: a folder, a gap of slashes, a last component, and slashes at
the end.  The folder does not end in a slash, and there is none without a gap. -/
structure IsLaidOut (p folder : String) (gap : Nat) (last : String) (tail : Nat) : Prop where
  whole : p = folder ++ slashes gap ++ last ++ slashes tail
  ending : ¬EndsInSlash folder
  bare : gap = 0 → folder = ""
  filled : last ≠ ""
  noSlash : '/' ∉ last.toList

/-- That two slashes or more stand before the last component.  Slashes elsewhere in the path do not
count, nor do those at its end. -/
def IsDoubled (p : String) : Prop :=
  ∃ folder gap last tail, IsLaidOut p folder gap last tail ∧ 2 ≤ gap

/-- The slashes at the end left off. -/
theorem IsLaidOut.trimmed_eq {p folder last : String} {gap tail : Nat}
    (laid : IsLaidOut p folder gap last tail) : trimmed p = folder ++ slashes gap ++ last := by
  rw [laid.whole, trimmed_append_slashes, trimmed_eq_self_iff, EndsInSlash, String.toList_append,
    List.getLast?_append_of_ne_nil _ (mt String.toList_eq_nil_iff.mp laid.filled)]
  exact not_endsInSlash_of_noSlash laid.noSlash

/-- The parent is the folder with the slashes of the gap but one. -/
theorem IsLaidOut.parent_eq {p folder last : String} {gap tail : Nat}
    (laid : IsLaidOut p folder gap last tail) : Path.parent p = folder ++ slashes (gap - 1) := by
  have kept := laid.trimmed_eq
  cases gap with
  | zero =>
    rw [laid.bare rfl, slashes_zero, String.append_empty, String.empty_append] at kept
    have whole := (isTakenApart p).whole
    rw [kept] at whole
    rw [(whole laid.noSlash).2, laid.bare rfl]
    rfl
  | succ n =>
    have cut : (trimmed p).toList = (folder ++ slashes n).toList ++ '/' :: last.toList := by
      rw [kept, slashes_succ]
      simp
    exact String.toList_inj.mp (toList_parts cut laid.noSlash).1

/-- A path is laid out, unless it is nothing but slashes. -/
theorem exists_isLaidOut {p : String} (more : ¬∀ c ∈ p.toList, c = '/') :
    ∃ folder gap last tail, IsLaidOut p folder gap last tail := by
  have apart := isTakenApart p
  have filled : Path.base p ≠ "" := mt (base_eq_empty_iff p).mp more
  obtain ⟨tail, whole⟩ := (isTrimmed p).whole
  by_cases there : '/' ∈ (trimmed p).toList
  · obtain ⟨⟨gap, parent⟩, ending⟩ := isTrimmed (Path.parent p)
    refine ⟨trimmed (Path.parent p), gap + 1, Path.base p, tail, ?_, ending, ?_, filled,
      apart.noSlash⟩
    · rw [slashes_succ, ← String.append_assoc, ← parent, apart.joined there]
      exact whole
    · exact fun none => absurd none (Nat.succ_ne_zero gap)
  · refine ⟨"", 0, Path.base p, tail, ?_, by decide, fun _ => rfl, filled, apart.noSlash⟩
    rw [slashes_zero, String.append_empty, String.empty_append, (apart.whole there).1]
    exact whole

/-- Slashes only, or none: there is no parent. -/
theorem parent_of_slashes {p : String} (only : ∀ c ∈ p.toList, c = '/') : Path.parent p = "" := by
  have whole := (isTakenApart p).whole
  rw [(trimmed_eq_empty_iff p).mpr only] at whole
  exact (whole (by decide)).2

/-- The parent ends in a slash just when two slashes or more stand before the last component. -/
theorem endsInSlash_parent_iff (p : String) : EndsInSlash (Path.parent p) ↔ IsDoubled p := by
  constructor
  · intro ends
    have more : ¬∀ c ∈ p.toList, c = '/' := by
      intro only
      rw [parent_of_slashes only] at ends
      cases ends
    obtain ⟨folder, gap, last, tail, laid⟩ := exists_isLaidOut more
    refine ⟨folder, gap, last, tail, laid, ?_⟩
    rw [laid.parent_eq, endsInSlash_append_slashes_iff laid.ending] at ends
    omega
  · rintro ⟨folder, gap, last, tail, laid, two⟩
    rw [laid.parent_eq, endsInSlash_append_slashes_iff laid.ending]
    omega

end Path

namespace Wording

open DaemonWatch.Path

/-! ## The message of a move -/

/-- **The folder that a move names.**  The body of the message is the title and a folder.  That
folder ends in a slash, and in just one unless two slashes or more stand before the last component
of the destination: just then the parent of the destination itself ends in a slash.  A destination
that is nothing but slashes has no parent, and the folder is a slash.  Any other is laid out: the
parent has the slashes of the gap but one, and the folder all of them, at least one. -/
theorem folder_of_move (stage : MoveStage) (source destination : String) :
    ∃ folder,
      (move stage source destination).2 =
          (move stage source destination).1 ++ " to " ++ quote folder ∧
        EndsInSlash folder ∧ (EndsInOneSlash folder ↔ ¬IsDoubled destination) ∧
        (EndsInSlash (Path.parent destination) ↔ IsDoubled destination) ∧
        ((∀ c ∈ destination.toList, c = '/') ∧ Path.parent destination = "" ∧ folder = "/" ∨
          ∃ front gap last tail, IsLaidOut destination front gap last tail ∧
            Path.parent destination = front ++ slashes (gap - 1) ∧
            folder = front ++ slashes (max gap 1)) := by
  refine ⟨Path.parent destination ++ "/", rfl, endsInSlash_append_slash _, ?_,
    endsInSlash_parent_iff destination, ?_⟩
  · rw [endsInOneSlash_append_slash_iff, endsInSlash_parent_iff]
  · by_cases only : ∀ c ∈ destination.toList, c = '/'
    · rw [parent_of_slashes only]
      exact .inl ⟨only, rfl, rfl⟩
    · obtain ⟨front, gap, last, tail, laid⟩ := exists_isLaidOut only
      have gaps : max gap 1 = gap - 1 + 1 := by omega
      refine .inr ⟨front, gap, last, tail, laid, laid.parent_eq, ?_⟩
      rw [laid.parent_eq, gaps, slashes_succ, String.append_assoc]

/-- Two slashes stand before the last component: the parent keeps one of them, and the message names
the folder with both. -/
theorem doubled_slash_named :
    EndsInSlash (Path.parent "/x/y//c.txt") ∧
      (move .start "/a/b/c.txt" "/x/y//c.txt").2 =
        "Starting to move \"c.txt\" to \"/x/y//\"" ∧
      ¬EndsInOneSlash "/x/y//" := by
  refine ⟨by decide, by decide, ?_⟩
  rw [show "/x/y//" = "/x/y/" ++ "/" by decide, endsInOneSlash_append_slash_iff]
  decide

end Wording

end DaemonWatch
