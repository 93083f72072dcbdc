/-
  What an object holds for a key.

  1. **Objects that are made of members.**  A member takes the place of an earlier one with its key
     and leaves all others as they are (`Json.lookup_put`).  So of several members with one key the
     last is the one that counts (`Json.get?_ofMembers`).

  2. **Objects that are read from text.**  Two keys are the same when they decode to the same
     string, however they are spelled.  A member that is spelled among others is read among others
     (`Tree.exists_of_members?`), and no key is read that is not spelled
     (`Tree.exists_named_of_mem`).  So the last member whose key decodes to a name gives the value
     of the name (`Tree.get?_of_last`).
-/
import DaemonWatch.Proofs.JsonGrammar
import Mathlib.Data.List.Induction

namespace DaemonWatch.Json

/-! ## Objects -/

theorem lookup_cons_of_ne {α : Type} {k key : String} (other : k ≠ key) (v : α)
    (members : List (String × α)) : ((key, v) :: members).lookup k = members.lookup k := by
  rw [List.lookup_cons, beq_false_of_ne other]

/-- A member that is put among others is found by its key, and no other member is lost. -/
theorem lookup_put (key k : String) (value : Json) (members : List (String × Json)) :
    (put key value members).lookup k = if k = key then some value else members.lookup k := by
  induction members with
  | nil => by_cases same : k = key <;> simp [put, same]
  | cons m members ih =>
    obtain ⟨k', v⟩ := m
    rw [put]
    by_cases same : k = key
    · subst same
      rw [if_pos rfl] at ih ⊢
      split_ifs with before equal
      · exact List.lookup_cons_self
      · exact List.lookup_cons_self
      · rw [lookup_cons_of_ne equal, ih]
    · rw [if_neg same] at ih ⊢
      split_ifs with before equal
      · exact lookup_cons_of_ne same value _
      · subst equal
        rw [lookup_cons_of_ne same, lookup_cons_of_ne same]
      · simp only [List.lookup_cons, ih]

/-- **The last of the members with a key counts.**  Members are put into the object one by one, and
each takes the place of one with its key. -/
theorem get?_ofMembers (members : List (String × Json)) (key : String) :
    (ofMembers members).get? key = members.reverse.lookup key := by
  show (members.foldl (fun sorted m => put m.1 m.2 sorted) []).lookup key = _
  -- From the last member to the first: the last one is put in last.
  induction members using List.reverseRecOn with
  | nil => rfl
  | append_singleton members m ih =>
    rw [List.foldl_append, List.foldl_cons, List.foldl_nil, lookup_put, ih, List.reverse_append,
      List.reverse_singleton, List.singleton_append]
    split_ifs with same
    · rw [same, List.lookup_cons_self]
    · exact (lookup_cons_of_ne same m.2 _).symm

namespace Tree

/-! ## Objects in text -/

/-- The members of an object are read one by one: a member stands among those before and behind
it. -/
theorem exists_of_members? {before after : List (List Piece × Tree)} {name : List Piece} {t : Tree}
    {depth : Nat} {members : List (String × Json)}
    (read : members? depth (before ++ (name, t) :: after) = some members) :
    ∃ first key v last, members = first ++ (key, v) :: last ∧ Piece.string? name = some key ∧
      t.value? depth = some v ∧ members? depth after = some last := by
  induction before generalizing members with
  | nil =>
    simp only [List.nil_append, members?, Option.bind_eq_bind, Option.bind_eq_some_iff,
      Option.pure_def, Option.some.injEq] at read
    obtain ⟨key, named, v, value, last, rest, rfl⟩ := read
    exact ⟨[], key, v, last, rfl, named, value, rest⟩
  | cons m before ih =>
    simp only [List.cons_append, members?, Option.bind_eq_bind, Option.bind_eq_some_iff,
      Option.pure_def, Option.some.injEq] at read
    obtain ⟨k, -, w, -, more, rest, rfl⟩ := read
    obtain ⟨first, key, v, last, rfl, found⟩ := ih rest
    exact ⟨(k, w) :: first, key, v, last, rfl, found⟩

/-- The keys of members are those that the text spells. -/
theorem exists_named_of_mem {spelled : List (List Piece × Tree)} {depth : Nat}
    {members : List (String × Json)} (read : members? depth spelled = some members) :
    ∀ m ∈ members, ∃ n ∈ spelled, Piece.string? n.1 = some m.1 := by
  induction spelled generalizing members with
  | nil =>
    cases read
    simp
  | cons n spelled ih =>
    simp only [members?, Option.bind_eq_bind, Option.bind_eq_some_iff, Option.pure_def,
      Option.some.injEq] at read
    obtain ⟨key, named, v, -, more, rest, rfl⟩ := read
    intro m mem
    rcases List.mem_cons.mp mem with rfl | mem
    · exact ⟨n, List.mem_cons_self, named⟩
    · obtain ⟨n', there, named'⟩ := ih rest m mem
      exact ⟨n', List.mem_cons_of_mem n there, named'⟩

/-- **In an object that is read the last member with a key gives the value.** -/
theorem get?_of_last {before after : List (List Piece × Tree)} {name : List Piece} {t : Tree}
    {depth : Nat} {payload : Json} {key : String}
    (read : (object (before ++ (name, t) :: after)).value? depth = some payload)
    (named : Piece.string? name = some key) (last : ∀ m ∈ after, Piece.string? m.1 ≠ some key) :
    ∃ v d, payload.get? key = some v ∧ t.value? d = some v := by
  simp only [value?, Option.ite_none_left_eq_some, Option.map_eq_some_iff] at read
  obtain ⟨-, members, values, rfl⟩ := read
  obtain ⟨first, key', v, rest, rfl, named', value, behind⟩ := exists_of_members? values
  obtain rfl : key = key' := Option.some.inj (named.symm.trans named')
  have absent : rest.reverse.lookup key = none := by
    rw [List.lookup_eq_none_iff]
    intro m mem
    obtain ⟨n, there, same⟩ := exists_named_of_mem behind m (List.mem_reverse.mp mem)
    have other : key ≠ m.1 := by
      rintro rfl
      exact last n there same
    simpa using other
  refine ⟨v, depth - 1, ?_, value⟩
  rw [get?_ofMembers, List.reverse_append, List.reverse_cons, List.lookup_append,
    List.lookup_append, absent]
  simp

end Tree

end DaemonWatch.Json
