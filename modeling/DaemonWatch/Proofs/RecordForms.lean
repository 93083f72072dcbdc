/-
  The forms that a record has in JSON text.

  1. **Values** (`Tree.IsText`, `Tree.IsBool`, `Tree.IsUInt64`, `Tree.IsList`): which trees spell a
     string, a truth value, an unsigned integer and a list, each with the equation that they are
     read from these trees and no others (`list?_eq_some_iff`).

  2. **Fields.**  `Given` says what a field comes to: the value that is given for it, or else its
     default.  It asks for membership and not for a position, so it only depends on what is given
     under the name (`Given.of_same`); that another order or another field makes no difference is a
     case of it.

  3. **Trees that are no record** (`Misfits`): the four ways in which a tree fails to spell any
     fields, which are all there are (`exists_spells_iff`).  `Gives` says which fields a tree
     mentions, even if it misfits.

  4. **Trees of one record** (`Rearranged`): the members may stand in another order and among others
     that are not looked at, a key may be spelled in another way, and an array may stand for an
     object.  Each of these steps has a lemma that says what becomes of the fields
     (`Spells.permuted`, `present?_inserted`, `present?_respelled`, `Spells.replaced`,
     `present?_listed`).

  5. **The crux (`Rearranged.iff`)**, by induction over the steps: what depends on the fields alone,
     and not on their order, holds for the one tree exactly when it holds for the other.  It is
     stated for any such property, and values may be exchanged for others that the property does not
     tell apart, so that a record within a record is rearranged with it.
-/
import DaemonWatch.Proofs.JsonRecord
import DaemonWatch.Proofs.JsonText
import Mathlib.Data.List.Perm.Basic
import Mathlib.Data.List.Nodup

namespace DaemonWatch.Json

/-! ## Single values -/

namespace Tree

/-- That a tree spells a string. -/
inductive IsText : Tree → String → Prop
  | text {s : List Piece} {v : String} (decodes : Piece.string? s = some v) : IsText (.text s) v

/-- That a tree spells a truth value. -/
inductive IsBool : Tree → Bool → Prop
  | bool (b : Bool) : IsBool (.bool b) b

/-- That a tree spells an unsigned integer of 64 bits: by digits alone, without a sign, a point or
an exponent. -/
inductive IsUInt64 : Tree → Nat → Prop
  | digits {values : List Nat} (bound : numeral 10 values ≤ maxUInt64) :
      IsUInt64 (.number ⟨false, values, [], none⟩) (numeral 10 values)

/-- That a tree is an array that spells the elements of a list one by one. -/
inductive IsList {α : Type} (each : Tree → α → Prop) : Tree → List α → Prop
  | array {items : List Tree} {xs : List α} (all : List.Forall₂ each items xs) :
      IsList each (.array items) xs

theorem string?_eq_some_iff (t : Tree) (v : String) : t.string? = some v ↔ t.IsText v := by
  constructor
  · intro read
    cases t with
    | text s => exact .text read
    | null | bool | number | array | object => cases read
  · rintro ⟨decodes⟩
    exact decodes

theorem bool?_eq_some_iff (t : Tree) (b : Bool) : t.bool? = some b ↔ t.IsBool b := by
  constructor
  · intro read
    cases t with
    | bool b =>
      cases read
      exact .bool b
    | null | text | number | array | object => cases read
  · rintro ⟨⟩
    rfl

theorem uint64?_eq_some_iff (t : Tree) (n : Nat) : t.uint64? = some n ↔ t.IsUInt64 n := by
  have small : 0 ≤ maxUInt64 := Nat.zero_le _
  constructor
  · intro read
    cases t with
    | number l =>
      obtain ⟨negative, whole, fraction, exponent⟩ := l
      obtain ⟨i, filtered, rfl⟩ := Option.map_eq_some_iff.mp read
      obtain ⟨exact, positive⟩ := Option.filter_eq_some_iff.mp filtered
      unfold Literal.int? at exact
      dsimp only at exact
      split at exact
      next _ _ _ m absorbed =>
        obtain ⟨value, bound⟩ := (absorb_eq_nil_iff small).mp absorbed
        cases negative with
        | false =>
          cases exact
          subst value
          exact .digits bound
        | true =>
          -- What a minus sign leaves is below zero.
          simp only [Bool.not_true, Bool.false_eq_true, if_false] at exact
          split_ifs at exact with none
          cases exact
          simp at none positive
          omega
      next => cases exact
    | null | bool | text | array | object => cases read
  · rintro ⟨bound⟩
    rename_i values
    have absorbed := (absorb_eq_nil_iff small).mpr ⟨rfl, bound⟩
    simp [uint64?, Literal.int?, absorbed, numeral]

theorem list?_eq_some_iff {α : Type} {read : Tree → Option α} {each : Tree → α → Prop}
    (reads : ∀ t x, read t = some x ↔ each t x) (t : Tree) (xs : List α) :
    t.list? read = some xs ↔ t.IsList each xs := by
  have same : (fun t x => read t = some x) = each := by
    funext t x
    exact propext (reads t x)
  constructor
  · intro all
    cases t with
    | array items =>
      rw [list?, Record.mapM_eq_some_iff, same] at all
      exact .array all
    | null | bool | number | text | object => cases all
  · rintro ⟨all⟩
    rwa [list?, Record.mapM_eq_some_iff, same]

/-- What is not read is not spelled. -/
theorem not_spelled {α : Type} {read : Tree → Option α} {spelled : Tree → α → Prop}
    (reads : ∀ t x, read t = some x ↔ spelled t x) {t : Tree} (unread : read t = none) (x : α) :
    ¬spelled t x := by
  rw [← reads, unread]
  simp

/-- A list that is not read has an element that is not. -/
theorem exists_of_mapM_eq_none {α β : Type} {read : α → Option β} {xs : List α}
    (unread : xs.mapM read = none) : ∃ x ∈ xs, read x = none := by
  induction xs with
  | nil => cases unread
  | cons x xs ih =>
    cases first : read x with
    | none => exact ⟨x, List.mem_cons_self, first⟩
    | some y =>
      have rest : xs.mapM read = none := by
        cases rest : xs.mapM read with
        | none => rfl
        | some ys => simp [List.mapM_cons, first, rest] at unread
      obtain ⟨z, mem, other⟩ := ih rest
      exact ⟨z, List.mem_cons_of_mem _ mem, other⟩

/-- A list is not read when there is no array, or an item of it is not read. -/
theorem list?_eq_none {α : Type} {read : Tree → Option α} {t : Tree}
    (unread : t.list? read = none) :
    (∀ items, t ≠ .array items) ∨
      ∃ items item, t = .array items ∧ item ∈ items ∧ read item = none := by
  cases t with
  | array items =>
    obtain ⟨item, mem, other⟩ := exists_of_mapM_eq_none unread
    exact .inr ⟨items, item, rfl, mem, other⟩
  | null | bool | number | text | object => exact .inl (by simp)

end Tree

namespace Record

/-! ## Fields and their defaults -/

/-- What a field comes to, given the fields of a record: the value that is given for it, or else its
default, if it has one. -/
inductive Given {α : Type} (fields : List (String × Tree)) (name : String)
    (spelled : Tree → α → Prop) : Option α → α → Prop
  | given {default : Option α} {t : Tree} {v : α} (mem : (name, t) ∈ fields)
      (isSpelled : spelled t v) : Given fields name spelled default v
  | missing {v : α} (absent : ∀ t, (name, t) ∉ fields) : Given fields name spelled (some v) v

/-- Where no name comes twice, a field is found when it is there. -/
theorem lookup_eq_some_iff_mem {fields : List (String × Tree)}
    (once : (fields.map Prod.fst).Nodup) {name : String} {t : Tree} :
    fields.lookup name = some t ↔ (name, t) ∈ fields := by
  induction fields with
  | nil => simp
  | cons f fields ih =>
    obtain ⟨key, u⟩ := f
    rw [List.map_cons, List.nodup_cons] at once
    rw [List.lookup_cons, List.mem_cons, Prod.mk.injEq, ← ih once.2]
    by_cases same : name = key
    · subst same
      have other : fields.lookup name ≠ some t := by
        intro found
        exact once.1 (List.mem_map.mpr ⟨_, (ih once.2).mp found, rfl⟩)
      simp [other, eq_comm]
    · have check : (name == key) = false := by simpa using same
      simp [same, check]

/-- A field is not found when it is not there. -/
theorem lookup_eq_none_iff_notMem {fields : List (String × Tree)} {name : String} :
    fields.lookup name = none ↔ ∀ t, (name, t) ∉ fields := by
  rw [List.lookup_eq_none_iff]
  constructor
  · intro none t mem
    simpa using none (name, t) mem
  · rintro absent ⟨key, t⟩ mem
    have other : name ≠ key := by
      rintro rfl
      exact absent t mem
    simpa using other

/-- **A field is read as what it comes to.** -/
theorem field?_eq_some_iff_given {α : Type} {fields : List (String × Tree)} {name : String}
    {read : Tree → Option α} {spelled : Tree → α → Prop} {default : Option α} {v : α}
    (once : (fields.map Prod.fst).Nodup) (reads : ∀ t v, read t = some v ↔ spelled t v) :
    field? fields name default read = some v ↔ Given fields name spelled default v := by
  constructor
  · intro found
    cases present : fields.lookup name with
    | some t =>
      simp only [field?, present] at found
      exact .given ((lookup_eq_some_iff_mem once).mp present) ((reads t v).mp found)
    | none =>
      simp only [field?, present] at found
      rw [found]
      exact .missing (lookup_eq_none_iff_notMem.mp present)
  · intro given
    cases given with
    | @given _ t _ mem isSpelled =>
      simp only [field?, (lookup_eq_some_iff_mem once).mpr mem]
      exact (reads t v).mpr isSpelled
    | missing absent => simp only [field?, lookup_eq_none_iff_notMem.mpr absent]

/-- A field is not read when what is given for it is not, or it is missing and has no default. -/
theorem field?_eq_none {α : Type} {fields : List (String × Tree)} {name : String}
    {read : Tree → Option α} {default : Option α} (once : (fields.map Prod.fst).Nodup)
    (none : field? fields name default read = none) :
    (∃ t, (name, t) ∈ fields ∧ read t = .none) ∨
      (default = .none ∧ ∀ t, (name, t) ∉ fields) := by
  cases present : fields.lookup name with
  | some t =>
    simp only [field?, present] at none
    exact .inl ⟨t, (lookup_eq_some_iff_mem once).mp present, none⟩
  | none =>
    simp only [field?, present] at none
    exact .inr ⟨none, lookup_eq_none_iff_notMem.mp present⟩

/-- A field depends on what is given for it alone. -/
theorem Given.of_same {α : Type} {fields fields' : List (String × Tree)} {name : String}
    {spelled : Tree → α → Prop} {default : Option α} {v : α}
    (there : ∀ t, (name, t) ∈ fields → spelled t v → ∃ t', (name, t') ∈ fields' ∧ spelled t' v)
    (back : ∀ t, (name, t) ∈ fields' → ∃ t', (name, t') ∈ fields)
    (given : Given fields name spelled default v) : Given fields' name spelled default v := by
  cases given with
  | @given _ t _ mem isSpelled =>
    obtain ⟨t', mem', isSpelled'⟩ := there t mem isSpelled
    exact .given mem' isSpelled'
  | missing absent =>
    refine .missing fun t mem => ?_
    obtain ⟨t', mem'⟩ := back t mem
    exact absent t' mem'

/-- Another order of the fields makes no difference. -/
theorem Given.permuted {α : Type} {fields fields' : List (String × Tree)} {name : String}
    {spelled : Tree → α → Prop} {default : Option α} {v : α} (perm : fields.Perm fields')
    (given : Given fields name spelled default v) : Given fields' name spelled default v :=
  given.of_same (fun t mem isSpelled => ⟨t, perm.mem_iff.mp mem, isSpelled⟩)
    (fun t mem => ⟨t, perm.mem_iff.mpr mem⟩)

/-- Nor does another value for one of them, if it spells the same or the field is another one. -/
theorem Given.replaced {α : Type} {first last : List (String × Tree)} {name other : String}
    {t t' : Tree} {spelled : Tree → α → Prop} {default : Option α} {v : α}
    (same : other = name → ∀ x, spelled t x → spelled t' x)
    (given : Given (first ++ (other, t) :: last) name spelled default v) :
    Given (first ++ (other, t') :: last) name spelled default v := by
  refine given.of_same (fun u mem isSpelled => ?_) (fun u mem => ?_)
  · simp only [List.mem_append, List.mem_cons, Prod.mk.injEq] at mem ⊢
    rcases mem with mem | ⟨isOther, rfl⟩ | mem
    · exact ⟨u, .inl mem, isSpelled⟩
    · exact ⟨t', .inr (.inl ⟨isOther, rfl⟩), same isOther.symm v isSpelled⟩
    · exact ⟨u, .inr (.inr mem), isSpelled⟩
  · simp only [List.mem_append, List.mem_cons, Prod.mk.injEq] at mem ⊢
    rcases mem with mem | ⟨isOther, rfl⟩ | mem
    · exact ⟨u, .inl mem⟩
    · exact ⟨t, .inr (.inl ⟨isOther, rfl⟩)⟩
    · exact ⟨u, .inr (.inr mem)⟩

/-- What is given for a field spells its value. -/
theorem Given.spelled {α : Type} {fields : List (String × Tree)} {name : String}
    {spelled : Tree → α → Prop} {default : Option α} {v : α} {t : Tree}
    (given : Given fields name spelled default v) (once : (fields.map Prod.fst).Nodup)
    (mem : (name, t) ∈ fields) : spelled t v := by
  cases given with
  | @given _ u _ mem' isSpelled =>
    have found := (lookup_eq_some_iff_mem once).mpr mem
    have found' := (lookup_eq_some_iff_mem once).mpr mem'
    rw [found] at found'
    cases found'
    exact isSpelled
  | missing absent => exact absurd mem (absent t)

/-! ## Trees that spell no record -/

/-- The ways in which a tree spells no fields: it is no object and no array, a key does not decode,
a name comes twice, or there are too many items. -/
inductive Misfits (names : List String) : Tree → Prop
  | other {t : Tree} (noObject : ∀ members, t ≠ .object members)
      (noArray : ∀ items, t ≠ .array items) : Misfits names t
  | key {members : List (List Piece × Tree)} {m : List Piece × Tree} (mem : m ∈ members)
      (noKey : Piece.string? m.1 = none) : Misfits names (.object members)
  | twice {members : List (List Piece × Tree)} {m n : List Piece × Tree} {name : String}
      (two : [m, n].Sublist members) (first : Piece.string? m.1 = some name)
      (second : Piece.string? n.1 = some name) (known : name ∈ names) :
      Misfits names (.object members)
  | long {items : List Tree} (long : names.length < items.length) : Misfits names (.array items)

/-- That a tree mentions a field: an object by a member whose key decodes to the name, an array by
the item in its place.  A tree that misfits may mention a field twice. -/
inductive Gives (names : List String) : Tree → String → Tree → Prop
  | member {members : List (List Piece × Tree)} {key : List Piece} {name : String} {t : Tree}
      (mem : (key, t) ∈ members) (decodes : Piece.string? key = some name)
      (known : name ∈ names) : Gives names (.object members) name t
  | item {items : List Tree} {name : String} {t : Tree} (mem : (name, t) ∈ names.zip items) :
      Gives names (.array items) name t

/-- A field that a tree mentions has one of the names. -/
theorem Gives.known {names : List String} {t v : Tree} {name : String}
    (gives : Gives names t name v) : name ∈ names := by
  cases gives with
  | member mem decodes known => exact known
  | item mem => exact (List.of_mem_zip mem).1

/-- Members and what their keys decode to. -/
abbrev Keyed (members : List (List Piece × Tree)) (keyed : List (String × Tree)) : Prop :=
  List.Forall₂ (fun m k => Piece.string? m.1 = some k.1 ∧ m.2 = k.2) members keyed

theorem Keyed.map_key {members : List (List Piece × Tree)} {keyed : List (String × Tree)}
    (keys : Keyed members keyed) :
    members.map (fun m => Piece.string? m.1) = keyed.map fun k => some k.1 := by
  induction keys with
  | nil => rfl
  | cons first _ ih => rw [List.map_cons, List.map_cons, first.1, ih]

theorem Keyed.mem_iff {members : List (List Piece × Tree)} {keyed : List (String × Tree)}
    (keys : Keyed members keyed) {name : String} {t : Tree} :
    (name, t) ∈ keyed ↔ ∃ key, (key, t) ∈ members ∧ Piece.string? key = some name := by
  induction keys with
  | nil => simp
  | @cons m k members keyed first _ ih =>
    obtain ⟨key, u⟩ := m
    obtain ⟨decoded, u'⟩ := k
    obtain ⟨decodes, rfl⟩ : Piece.string? key = some decoded ∧ u = u' := first
    rw [List.mem_cons, ih]
    constructor
    · rintro (same | ⟨key', mem, decodes'⟩)
      · cases same
        exact ⟨key, List.mem_cons_self, decodes⟩
      · exact ⟨key', List.mem_cons_of_mem _ mem, decodes'⟩
    · rintro ⟨key', mem, decodes'⟩
      rcases List.mem_cons.mp mem with same | mem
      · cases same
        rw [decodes] at decodes'
        cases decodes'
        exact .inl rfl
      · exact .inr ⟨key', mem, decodes'⟩

/-- Members whose keys decode, unless one does not. -/
theorem exists_keyed_or (members : List (List Piece × Tree)) :
    (∃ keyed, Keyed members keyed) ∨ ∃ m ∈ members, Piece.string? m.1 = none := by
  induction members with
  | nil => exact .inl ⟨[], .nil⟩
  | cons m members ih =>
    cases decodes : Piece.string? m.1 with
    | none => exact .inr ⟨m, List.mem_cons_self, decodes⟩
    | some name =>
      rcases ih with ⟨keyed, keys⟩ | ⟨n, mem, noKey⟩
      · exact .inl ⟨(name, m.2) :: keyed, .cons ⟨decodes, rfl⟩ keys⟩
      · exact .inr ⟨n, List.mem_cons_of_mem _ mem, noKey⟩

/-- Two elements with one image. -/
theorem two_sublist_map_iff {α β : Type} {f : α → β} {l : List α} {b : β} :
    [b, b].Sublist (l.map f) ↔ ∃ m n, [m, n].Sublist l ∧ f m = b ∧ f n = b := by
  rw [List.sublist_map_iff]
  constructor
  · rintro ⟨two, sub, same⟩
    obtain ⟨m, rest, rfl, first, same'⟩ := List.map_eq_cons_iff.mp same.symm
    obtain ⟨n, rest', rfl, second, same''⟩ := List.map_eq_cons_iff.mp same'
    rw [List.map_eq_nil_iff] at same''
    subst same''
    exact ⟨m, n, sub, first, second⟩
  · rintro ⟨m, n, sub, first, second⟩
    exact ⟨[m, n], sub, by rw [List.map_cons, List.map_singleton, first, second]⟩

/-- A known name comes twice exactly when two members have it.  Two of a name in a list are two
elements of any list that it is the image of, so this is traced back from the names that are known,
over all names, to the members. -/
theorem Keyed.not_nodup_iff {names : List String} {members : List (List Piece × Tree)}
    {keyed : List (String × Tree)} (keys : Keyed members keyed) :
    ¬((keyed.filter fun m => names.contains m.1).map Prod.fst).Nodup ↔
      ∃ m n name, [m, n].Sublist members ∧ Piece.string? m.1 = some name ∧
        Piece.string? n.1 = some name ∧ name ∈ names := by
  have filtered : (keyed.filter fun m => names.contains m.1).map Prod.fst =
      (keyed.map Prod.fst).filter (names.contains ·) := by
    rw [List.filter_map]
    rfl
  have known (name : String) : [name, name].Sublist ((keyed.map Prod.fst).filter (names.contains ·)) ↔
      [name, name].Sublist (keyed.map Prod.fst) ∧ name ∈ names := by
    constructor
    · intro sub
      have mem := sub.subset List.mem_cons_self
      rw [List.mem_filter, List.contains_eq_mem, decide_eq_true_eq] at mem
      exact ⟨sub.trans List.filter_sublist, mem.2⟩
    · rintro ⟨sub, mem⟩
      simpa [mem] using sub.filter (names.contains ·)
  have decoded (name : String) : [name, name].Sublist (keyed.map Prod.fst) ↔
      ∃ m n, [m, n].Sublist members ∧ Piece.string? m.1 = some name ∧
        Piece.string? n.1 = some name := by
    rw [← two_sublist_map_iff, keys.map_key, two_sublist_map_iff, two_sublist_map_iff]
    simp only [Option.some.injEq]
  rw [filtered, List.nodup_iff_sublist, not_forall]
  simp only [not_not, known, decoded]
  constructor
  · rintro ⟨name, ⟨m, n, sub, first, second⟩, mem⟩
    exact ⟨m, n, name, sub, first, second, mem⟩
  · rintro ⟨m, n, name, sub, first, second, mem⟩
    exact ⟨name, ⟨m, n, sub, first, second⟩, mem⟩

/-- **A tree spells fields unless it misfits.**  Where no key of an object fails to decode its
members have names, and then only a name that comes twice is in the way. -/
theorem exists_spells_iff {names : List String} {t : Tree} :
    (∃ fields, Spells names t fields) ↔ ¬Misfits names t := by
  constructor
  · rintro ⟨fields, spells⟩ misfits
    cases misfits with
    | other noObject noArray =>
      cases spells with
      | object => exact noObject _ rfl
      | array => exact noArray _ rfl
    | @key members m mem noKey =>
      cases spells with
      | @object _ keyed keys once =>
        have none : none ∈ members.map fun m => Piece.string? m.1 :=
          List.mem_map.mpr ⟨m, mem, noKey⟩
        rw [Keyed.map_key keys] at none
        simp at none
    | @twice members m n name two first second known =>
      cases spells with
      | object keys once =>
        exact (Keyed.not_nodup_iff keys).mpr ⟨m, n, name, two, first, second, known⟩ once
    | long long =>
      cases spells with
      | array fits => omega
  · intro fits
    cases t with
    | object members =>
      rcases exists_keyed_or members with ⟨keyed, keys⟩ | ⟨m, mem, noKey⟩
      · refine ⟨_, .object keys ?_⟩
        by_contra twice
        obtain ⟨m, n, name, two, first, second, known⟩ := keys.not_nodup_iff.mp twice
        exact fits (.twice two first second known)
      · exact absurd (.key mem noKey) fits
    | array items =>
      refine ⟨_, .array ?_⟩
      by_contra long
      exact fits (.long (Nat.lt_of_not_le long))
    | null | bool | number | text => exact absurd (.other (by simp) (by simp)) fits

/-- **A tree mentions the fields that it spells.** -/
theorem Spells.gives_iff {names : List String} {t v : Tree} {fields : List (String × Tree)}
    {name : String} (spells : Spells names t fields) :
    Gives names t name v ↔ (name, v) ∈ fields := by
  cases spells with
  | object keys once =>
    rw [List.mem_filter, Keyed.mem_iff keys, List.contains_eq_mem, decide_eq_true_eq]
    constructor
    · rintro ⟨mem, decodes, known⟩
      exact ⟨⟨_, mem, decodes⟩, known⟩
    · rintro ⟨⟨key, mem, decodes⟩, known⟩
      exact .member mem decodes known
  | array fits =>
    constructor
    · intro gives
      cases gives with
      | item mem => exact mem
    · intro mem
      exact .item mem

theorem nodup_zip {names : List String} (distinct : names.Nodup) (items : List Tree) :
    ((names.zip items).map Prod.fst).Nodup := by
  have sub : ((names.zip items).map Prod.fst).Sublist names := by
    clear distinct
    induction names generalizing items with
    | nil => exact .slnil
    | cons name names ih =>
      cases items with
      | nil => exact List.nil_sublist _
      | cons item items => exact (ih items).cons_cons name
  exact distinct.sublist sub

/-- No name comes twice among the fields that a tree spells. -/
theorem Spells.nodup {names : List String} {t : Tree} {fields : List (String × Tree)}
    (spells : Spells names t fields) (distinct : names.Nodup) :
    (fields.map Prod.fst).Nodup := by
  cases spells with
  | object keys once => exact once
  | @array items fits =>
    exact nodup_zip distinct items

/-! ## Trees of one record -/

/-- That two trees spell one record, some of whose values may be alike without being the same.  In
an object, the members may stand in another order, members with other names may be inserted or left
out, keys may be spelled in another way, and values may be alike.  An array spells what the object
of its first fields spells. -/
inductive Rearranged (names : List String) (alike : String → Tree → Tree → Prop) :
    Tree → Tree → Prop
  | permuted {members members' : List (List Piece × Tree)} (perm : members.Perm members') :
      Rearranged names alike (.object members) (.object members')
  | inserted {before after : List (List Piece × Tree)} {key : List Piece} {name : String} {t : Tree}
      (decodes : Piece.string? key = some name) (unknown : name ∉ names) :
      Rearranged names alike (.object (before ++ after)) (.object (before ++ (key, t) :: after))
  | respelled {before after : List (List Piece × Tree)} {key key' : List Piece} {t : Tree}
      (same : Piece.string? key = Piece.string? key') :
      Rearranged names alike (.object (before ++ (key, t) :: after))
        (.object (before ++ (key', t) :: after))
  | replaced {before after : List (List Piece × Tree)} {key : List Piece} {name : String}
      {t t' : Tree} (decodes : Piece.string? key = some name) (isAlike : alike name t t') :
      Rearranged names alike (.object (before ++ (key, t) :: after))
        (.object (before ++ (key, t') :: after))
  | listed {items : List Tree} {members : List (List Piece × Tree)}
      (fits : items.length ≤ names.length) (keys : Keyed members (names.zip items)) :
      Rearranged names alike (.array items) (.object members)
  | refl (t : Tree) : Rearranged names alike t t
  | symm {t t' : Tree} (other : Rearranged names alike t t') : Rearranged names alike t' t
  | trans {t t' t'' : Tree} (first : Rearranged names alike t t')
      (second : Rearranged names alike t' t'') : Rearranged names alike t t''

/-- An object with its members in another order spells the same fields in another order. -/
theorem Spells.permuted {names : List String} {members members' : List (List Piece × Tree)}
    {fields : List (String × Tree)} (spells : Spells names (.object members) fields)
    (perm : members.Perm members') :
    ∃ fields', Spells names (.object members') fields' ∧ fields.Perm fields' := by
  cases spells with
  | @object _ keyed keys once =>
    obtain ⟨keyed', keys', perm'⟩ := List.perm_comp_forall₂ perm.symm keys
    have known := perm'.symm.filter fun m => names.contains m.1
    exact ⟨_, .object keys' ((known.map Prod.fst).nodup_iff.mp once), known⟩

/-- A member with another name is not looked at. -/
theorem present?_inserted {names : List String} {before after : List (List Piece × Tree)}
    {key : List Piece} {name : String} {t : Tree} (decodes : Piece.string? key = some name)
    (unknown : name ∉ names) :
    present? names (.object (before ++ (key, t) :: after)) =
      present? names (.object (before ++ after)) := by
  simp only [present?, List.mapM_append, List.mapM_cons, decodes, Option.map_some,
    Option.bind_eq_bind, Option.bind_some, Option.pure_def]
  cases before.mapM fun m => (Piece.string? m.1).map (·, m.2) with
  | none => rfl
  | some k =>
    cases after.mapM fun m => (Piece.string? m.1).map (·, m.2) with
    | none => rfl
    | some k' => simp [unknown]

/-- A key counts for what it decodes to. -/
theorem present?_respelled {names : List String} {before after : List (List Piece × Tree)}
    {key key' : List Piece} {t : Tree} (same : Piece.string? key = Piece.string? key') :
    present? names (.object (before ++ (key, t) :: after)) =
      present? names (.object (before ++ (key', t) :: after)) := by
  simp only [present?, List.mapM_append, List.mapM_cons, same]

/-- Another value for a member is another value for a field, or is not looked at.  It depends on
whether the name is known; the keys are the same, so no name comes twice that did not before. -/
theorem Spells.replaced {names : List String} {before after : List (List Piece × Tree)}
    {key : List Piece} {name : String} {t t' : Tree} {fields : List (String × Tree)}
    (decodes : Piece.string? key = some name)
    (spells : Spells names (.object (before ++ (key, t) :: after)) fields) :
    Spells names (.object (before ++ (key, t') :: after)) fields ∨
      ∃ first last, fields = first ++ (name, t) :: last ∧
        Spells names (.object (before ++ (key, t') :: after)) (first ++ (name, t') :: last) := by
  rw [← present?_eq_some_iff] at spells ⊢
  simp only [← present?_eq_some_iff]
  simp only [present?, List.mapM_append, List.mapM_cons, decodes, Option.map_some,
    Option.bind_eq_bind, Option.bind_some, Option.pure_def] at spells ⊢
  cases first : before.mapM fun m => (Piece.string? m.1).map (·, m.2) with
  | none => simp [first] at spells
  | some k =>
    cases last : after.mapM fun m => (Piece.string? m.1).map (·, m.2) with
    | none => simp [first, last] at spells
    | some k' =>
      simp only [first, last, Option.bind_some, List.filter_append, List.filter_cons] at spells ⊢
      by_cases known : names.contains name = true
      · simp only [known, if_true, List.map_append, List.map_cons] at spells ⊢
        split_ifs at spells with once
        cases spells
        exact .inr ⟨_, _, rfl, if_pos once⟩
      · simp only [known] at spells ⊢
        exact .inl spells

/-- An array spells what an object spells that has the same values under the names in order. -/
theorem present?_listed {names : List String} (distinct : names.Nodup) {items : List Tree}
    {members : List (List Piece × Tree)} (fits : items.length ≤ names.length)
    (keys : Keyed members (names.zip items)) :
    present? names (.array items) = present? names (.object members) := by
  have known : (names.zip items).filter (fun m => names.contains m.1) = names.zip items := by
    rw [List.filter_eq_self]
    intro m mem
    rw [List.contains_eq_mem, decide_eq_true_eq]
    exact (List.of_mem_zip mem).1
  have object := Spells.object keys (by
    rw [known]
    exact nodup_zip distinct items)
  rw [known] at object
  rw [present?_eq_some_iff.mpr object, present?_eq_some_iff.mpr (.array fits)]

/-- **Trees of one record agree** on what depends on the fields alone, if it does not depend on
their order and takes values that are alike for the same. -/
theorem Rearranged.iff {names : List String} {alike : String → Tree → Tree → Prop}
    {holds : List (String × Tree) → Prop} (distinct : names.Nodup)
    (order : ∀ fields fields', fields.Perm fields' → holds fields → holds fields')
    (value : ∀ first last name v v', alike name v v' →
      (holds (first ++ (name, v) :: last) ↔ holds (first ++ (name, v') :: last)))
    {t t' : Tree} (rearranged : Rearranged names alike t t') :
    (∃ fields, Spells names t fields ∧ holds fields) ↔
      ∃ fields, Spells names t' fields ∧ holds fields := by
  induction rearranged with
  | permuted perm =>
    constructor
    · rintro ⟨fields, spells, all⟩
      obtain ⟨fields', spells', perm'⟩ := spells.permuted perm
      exact ⟨fields', spells', order _ _ perm' all⟩
    · rintro ⟨fields, spells, all⟩
      obtain ⟨fields', spells', perm'⟩ := spells.permuted perm.symm
      exact ⟨fields', spells', order _ _ perm' all⟩
  | inserted decodes unknown =>
    simp only [← present?_eq_some_iff, present?_inserted decodes unknown]
  | respelled same => simp only [← present?_eq_some_iff, present?_respelled same]
  | replaced decodes isAlike =>
    constructor
    · rintro ⟨fields, spells, all⟩
      rcases spells.replaced decodes with spells | ⟨first, last, rfl, spells⟩
      · exact ⟨_, spells, all⟩
      · exact ⟨_, spells, (value _ _ _ _ _ isAlike).mp all⟩
    · rintro ⟨fields, spells, all⟩
      rcases spells.replaced decodes with spells | ⟨first, last, rfl, spells⟩
      · exact ⟨_, spells, all⟩
      · exact ⟨_, spells, (value _ _ _ _ _ isAlike).mpr all⟩
  | listed fits keys =>
    simp only [← present?_eq_some_iff, present?_listed distinct fits keys]
  | refl => exact Iff.rfl
  | symm _ ih => exact ih.symm
  | trans _ _ first second => exact first.trans second

end Record

end DaemonWatch.Json
