/-
  The canonical form of a text.

  Texts that mean the same have one canonical form: all composites are taken apart, the marks
  behind each character are put in the order of their classes, and then each character takes up
  the marks that it has a composite with.
-/
import DaemonWatch.Domain.CombiningClass
import DaemonWatch.Domain.Composite

namespace DaemonWatch.Domain

/-! ## Taking apart -/

/-- A text without composites.  What a composite is made of can be a composite, but what that one
is made of cannot. -/
def decomposed (s : List Char) : List Char := (s.flatMap parts).flatMap parts

/-! ## Order -/

/-- A character in front of a text in order, behind the marks of a lower class than its own. -/
def place (c : Char) : List Char → List Char
  | [] => [c]
  | d :: rest =>
    if combiningClass d ≠ 0 && combiningClass d < combiningClass c then d :: place c rest
    else c :: d :: rest

/-- A text with the marks behind each character in the order of their classes, those of one class
in the order that they had. -/
def ordered (s : List Char) : List Char := s.foldr place []

theorem place_perm (c : Char) (s : List Char) : (place c s).Perm (c :: s) := by
  induction s with
  | nil => exact List.Perm.refl _
  | cons d rest ih =>
    rw [place]
    split
    · exact (ih.cons d).trans (List.Perm.swap c d rest)
    · exact List.Perm.refl _

/-- Putting marks in order loses no character. -/
theorem ordered_perm (s : List Char) : (ordered s).Perm s := by
  induction s with
  | nil => exact List.Perm.refl _
  | cons c rest ih => exact (place_perm c (ordered rest)).trans (ih.cons c)

/-! ## Putting together -/

/-- A text behind the character `base`, of which the marks `passed`, given backwards, have been
left as they are.  A mark of the class of a mark in front of it stays away from the base. -/
def composedFrom (base : Char) (passed : List Char) : List Char → List Char
  | [] => base :: passed.reverse
  | c :: rest =>
    let blocked := passed.head?.any fun p => combiningClass c ≤ combiningClass p
    match if blocked then none else composite? base c with
    | some d => composedFrom d passed rest
    | none =>
      if combiningClass c = 0 then base :: passed.reverse ++ composedFrom c [] rest
      else composedFrom base (c :: passed) rest

/-- A text in which each character has taken up the marks that it has a composite with. -/
def composed : List Char → List Char
  | [] => []
  | c :: rest => if combiningClass c = 0 then composedFrom c [] rest else c :: composed rest

/-- The canonical form of a text. -/
def canonical (s : List Char) : List Char := composed (ordered (decomposed s))

end DaemonWatch.Domain
