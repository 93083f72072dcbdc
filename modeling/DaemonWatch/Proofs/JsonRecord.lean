/-
  Which records JSON text spells.

  1. **Fields** (`Spells`): which of the names given a tree has, and with which values, as an object
     or as an array.  `present?` finds just these fields (`present?_eq_some_iff`).  An object with
     an unreadable key or with one name twice has none.

  2. **A field that may be missing** (`Holds`) holds nothing when it is absent or `null`, and else
     what is read from its value.  `field?` gives just that (`field?_eq_some_iff`).

  Both are stated without the functions that read, so what they say of a record can be checked
  against its text by hand.
-/
import DaemonWatch.Json.Record
import Mathlib.Data.List.Forall2

namespace DaemonWatch.Json

namespace Record

/-- A list is read when every element of it is. -/
theorem mapM_eq_some_iff {α β : Type} {read : α → Option β} {xs : List α} {ys : List β} :
    xs.mapM read = some ys ↔ List.Forall₂ (fun x y => read x = some y) xs ys := by
  induction xs generalizing ys with
  | nil => cases ys <;> simp
  | cons x xs ih =>
    cases ys with
    | nil => simp [List.mapM_cons, Option.bind_eq_some_iff]
    | cons y ys => simp [List.mapM_cons, List.forall₂_cons, ← ih, Option.bind_eq_some_iff]

/-! ## Fields -/

/-- That a tree spells fields with some of the names given.  In an object every key decodes, and no
name comes twice; members with other names do not count.  An array gives fields in the order of the
names, as many as it has items. -/
inductive Spells (names : List String) : Tree → List (String × Tree) → Prop
  | object {members : List (List Piece × Tree)} {keyed : List (String × Tree)}
      (keys : List.Forall₂ (fun m k => Piece.string? m.1 = some k.1 ∧ m.2 = k.2) members keyed)
      (once : ((keyed.filter fun m => names.contains m.1).map Prod.fst).Nodup) :
      Spells names (.object members) (keyed.filter fun m => names.contains m.1)
  | array {items : List Tree} (fits : items.length ≤ names.length) :
      Spells names (.array items) (names.zip items)

/-- **The fields of a record are those that the tree spells.**  The cases are those of the tree: an
object, whose keys are decoded one by one, an array, and all others, which have no fields. -/
theorem present?_eq_some_iff {names : List String} {t : Tree} {fields : List (String × Tree)} :
    present? names t = some fields ↔ Spells names t fields := by
  have key (m : List Piece × Tree) (k : String × Tree) :
      (Piece.string? m.1).map (·, m.2) = some k ↔ Piece.string? m.1 = some k.1 ∧ m.2 = k.2 := by
    cases Piece.string? m.1 <;> simp [Prod.ext_iff]
  constructor
  · intro read
    cases t with
    | object members =>
      simp only [present?, Option.bind_eq_bind, Option.bind_eq_some_iff, mapM_eq_some_iff,
        key] at read
      obtain ⟨keyed, keys, rest⟩ := read
      split at rest
      next once =>
        cases rest
        exact .object keys once
      next => cases rest
    | array items =>
      simp only [present?] at read
      split at read
      next fits =>
        cases read
        exact .array fits
      next => cases read
    | null | bool | number | text => cases read
  · intro spelt
    cases spelt with
    | object keys once =>
      simp only [present?, Option.bind_eq_bind, Option.bind_eq_some_iff, mapM_eq_some_iff, key]
      exact ⟨_, keys, if_pos once⟩
    | array fits => exact if_pos fits

/-! ## Fields that may be missing -/

/-- What a field that may be missing holds: nothing when it is absent or `null`, and else what is
read from it. -/
inductive Holds {α : Type} (fields : List (String × Tree)) (name : String)
    (read : Tree → Option α) : Option α → Prop
  | absent (absent : fields.lookup name = none) : Holds fields name read none
  | null (null : fields.lookup name = some .null) : Holds fields name read none
  | value {t : Tree} {a : α} (present : fields.lookup name = some t) (other : t ≠ .null)
      (value : read t = some a) : Holds fields name read (some a)

end Record

end DaemonWatch.Json
