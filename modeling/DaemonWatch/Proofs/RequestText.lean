/-
  The text of a request.

  1. **Characters.**  No text that is printed has a character below U+0020, whatever the value is
     (`IsClean.chars`): such characters only occur in strings, and there they are written as a
     letter or by their number (`IsClean.escapeChar`).  It is an induction over the value.

  2. **Values that are read back** (`Json.FitsWithin`): integers, strings, arrays and objects with
     increasing keys that nest few enough levels.  The crux is that such a value can be read
     (`Json.FitsWithin.isReadable`): its members stay in order, and its depth is within what the
     reader accepts.

  3. **Requests.**  A request takes two of the levels itself (`Request.paramLevels`).  So one with
     such parameters is read back from its text, and no other request has that text
     (`request_read_back`).
-/
import DaemonWatch.Envelope
import DaemonWatch.Proofs.ReportOnWire
import Mathlib.Data.List.Induction

namespace DaemonWatch

open Text

/-! ## Characters of a text -/

/-- That no character is below U+0020. -/
def IsClean (s : List Char) : Prop := ∀ c ∈ s, 0x20 ≤ c.toNat

namespace IsClean

@[simp] theorem nil : IsClean [] := by simp [IsClean]

@[simp] theorem cons_iff {c : Char} {s : List Char} :
    IsClean (c :: s) ↔ 0x20 ≤ c.toNat ∧ IsClean s := by
  simp [IsClean]

@[simp] theorem append_iff {s t : List Char} : IsClean (s ++ t) ↔ IsClean s ∧ IsClean t := by
  simp [IsClean, or_imp, forall_and]

theorem take {s : List Char} (clean : IsClean s) (n : Nat) : IsClean (s.take n) :=
  fun c mem => clean c (List.mem_of_mem_take mem)

theorem drop {s : List Char} (clean : IsClean s) (n : Nat) : IsClean (s.drop n) :=
  fun c mem => clean c (List.mem_of_mem_drop mem)

theorem flatMap {α : Type} {f : α → List Char} {l : List α} (clean : ∀ a ∈ l, IsClean (f a)) :
    IsClean (l.flatMap f) := by
  intro c mem
  obtain ⟨a, memA, memC⟩ := List.mem_flatMap.mp mem
  exact clean a memA c memC

theorem digits (n : Nat) : IsClean (Nat.toDigits 10 n) := by
  intro c mem
  have digit := Nat.isDigit_of_mem_toDigits (by decide) (by decide) mem
  simp only [Char.isDigit, Bool.and_eq_true, decide_eq_true_eq, UInt32.le_iff_toNat_le] at digit
  have least : 48 ≤ c.toNat := digit.1
  omega

theorem zeros (n : Nat) : IsClean (Binary64.zeros n) := by
  intro c mem
  rw [List.eq_of_mem_replicate mem]
  decide

/-- A decimal is written with digits, a point, the letter `e` and signs. -/
theorem decimal (d : Binary64.Decimal) : IsClean d.text := by
  have digits := digits d.digits
  unfold Binary64.Decimal.text
  dsimp only
  split_ifs <;> simp [-List.drop_one, digits, IsClean.digits, zeros, digits.take, digits.drop]

theorem number (x : Json.Number) : IsClean x.text := by
  cases x with
  | int n =>
    rw [Json.Number.text, Json.intText]
    split_ifs <;> simp [digits]
  | double x =>
    rw [Json.Number.text, Binary64.text]
    split_ifs <;> simp [decimal]

/-- What is below U+0020 is written as a letter or by its number. -/
theorem escapeChar (c : Char) : IsClean (Json.escapeChar c) := by
  have hex : ∀ n < 0x20,
      0x20 ≤ (Json.hexDigit (n / 16)).toNat ∧ 0x20 ≤ (Json.hexDigit (n % 16)).toNat := by decide
  unfold Json.escapeChar
  split_ifs with _ _ _ _ _ _ _ control
  on_goal 8 => simp [hex c.toNat control]
  on_goal 8 => simpa using control
  all_goals simp

theorem quoted (s : String) : IsClean (Json.quoted s) := by
  have body : IsClean (s.toList.flatMap Json.escapeChar) := flatMap fun c _ => escapeChar c
  simp [Json.quoted, body]

-- The recursion is that of the printer.
mutual

/-- **No printed text has a character below U+0020.**  Outside of strings only marks, letters,
digits and signs are printed, and within them every such character is escaped. -/
theorem chars : ∀ v : Json, IsClean v.chars
  | .null => by simp [Json.chars]
  | .bool true => by simp [Json.chars]
  | .bool false => by simp [Json.chars]
  | .number x => by simpa [Json.chars] using number x
  | .text s => by simpa [Json.chars] using quoted s
  | .array items => by simp [Json.chars, itemsChars items]
  | .object members => by simp [Json.chars, membersChars members]

theorem itemsChars : ∀ vs : List Json, IsClean (Json.itemsChars vs)
  | [] => by simp [Json.itemsChars]
  | [v] => by simpa [Json.itemsChars] using chars v
  | v :: w :: vs => by simp [Json.itemsChars, chars v, itemsChars (w :: vs)]

theorem membersChars : ∀ ms : List (String × Json), IsClean (Json.membersChars ms)
  | [] => by simp [Json.membersChars]
  | [(key, v)] => by simp [Json.membersChars, quoted, chars v]
  | (key, v) :: m :: ms => by simp [Json.membersChars, quoted, chars v, membersChars (m :: ms)]

end

end IsClean

/-! ## Values that are read back -/

namespace Json

/-- That a value nests at most `levels` arrays and objects, that its numbers are integers that 64
bits hold, signed or unsigned, and that the keys of its objects increase. -/
inductive FitsWithin : Nat → Json → Prop
  | null {levels : Nat} : FitsWithin levels .null
  | bool {levels : Nat} {b : Bool} : FitsWithin levels (.bool b)
  | int {levels : Nat} {n : Int} (kept : IsKept n) : FitsWithin levels (.number (.int n))
  | text {levels : Nat} {s : String} : FitsWithin levels (.text s)
  | array {levels : Nat} {items : List Json} (each : ∀ v ∈ items, FitsWithin levels v) :
      FitsWithin (levels + 1) (.array items)
  | object {levels : Nat} {members : List (String × Json)}
      (increasing : (members.map Prod.fst).Pairwise (· < ·))
      (each : ∀ m ∈ members, FitsWithin levels m.2) : FitsWithin (levels + 1) (.object members)

theorem areReadable_iff {depth : Nat} {vs : List Json} :
    AreReadable depth vs ↔ ∀ v ∈ vs, v.IsReadable depth := by
  induction vs with
  | nil => simp [AreReadable]
  | cons v vs ih => simp [AreReadable, ih]

theorem areMembersReadable_iff {depth : Nat} {ms : List (String × Json)} :
    AreMembersReadable depth ms ↔ ∀ m ∈ ms, m.2.IsReadable depth := by
  induction ms with
  | nil => simp [AreMembersReadable]
  | cons m ms ih => simp [AreMembersReadable, ih]

/-- A key behind all others takes the last place. -/
theorem put_of_forall_lt {key : String} {v : Json} {ms : List (String × Json)}
    (last : ∀ m ∈ ms, m.1 < key) : put key v ms = ms ++ [(key, v)] := by
  induction ms with
  | nil => rfl
  | cons m ms ih =>
    obtain ⟨k, w⟩ := m
    have less : k < key := last (k, w) List.mem_cons_self
    rw [put, if_neg (String.lt_asymm less), if_neg (String.ne_of_lt less).symm,
      ih fun m mem => last m (List.mem_cons_of_mem _ mem), List.cons_append]

/-- Members whose keys increase stand in order. -/
theorem ofMembers_of_increasing {ms : List (String × Json)}
    (increasing : (ms.map Prod.fst).Pairwise (· < ·)) : ofMembers ms = .object ms := by
  rw [ofMembers]
  congr 1
  induction ms using List.reverseRecOn with
  | nil => rfl
  | append_singleton ms m ih =>
    rw [List.map_append, List.pairwise_append] at increasing
    obtain ⟨increasing, _, last⟩ := increasing
    rw [List.foldl_append, ih increasing]
    refine put_of_forall_lt ?_
    intro n mem
    exact last n.1 (List.mem_map_of_mem mem) m.1 (List.mem_singleton.mpr rfl)

/-- A value that nests few enough arrays and objects can be read. -/
theorem FitsWithin.isReadable {levels : Nat} {v : Json} (fits : v.FitsWithin levels) :
    v.IsReadable (levels + 1) := by
  induction fits with
  | null | bool | text => trivial
  | int kept => exact kept
  | array _ ih => exact ⟨by omega, areReadable_iff.mpr ih⟩
  | object increasing _ ih =>
    exact ⟨by omega, ofMembers_of_increasing increasing, areMembersReadable_iff.mpr ih⟩

end Json

/-! ## Requests -/

namespace Request

/-- How many arrays and objects a parameter may nest: the request and the list of its parameters
take two levels of the depth that is read, and the last level stays unused. -/
def paramLevels : Nat := Json.Tree.depthLimit - 3

/-- That the parameters of a request are not nested too deep, and hold no numbers but integers. -/
def FitsDepth (r : Request) : Prop := ∀ v ∈ r.params, v.FitsWithin paramLevels

/-- A request is read back from its text. -/
theorem read_text {r : Request} (fits : r.FitsDepth) :
    Json.ofText? Json.Tree.depthLimit (gapped r.text) = some r.object := by
  refine Json.ofText?_print (isReadable_object ?_)
  exact Json.areReadable_iff.mpr fun v mem => (fits v mem).isReadable

theorem object_inj {r r' : Request} (same : r.object = r'.object) :
    r.method = r'.method ∧ r.params = r'.params := by
  simpa [object] using same

end Request

/-- **A request is read back from its text.**  The text of a request has no character below U+0020.
It spells an object with two members, which are the method and the parameters as given.  So two
requests have the same text exactly when they have the same method and the same parameters. -/
theorem request_read_back (r : Request) (fits : r.FitsDepth) :
    (∀ c ∈ r.text.toList, 0x20 ≤ c.toNat) ∧
      Json.ofText? Json.Tree.depthLimit (gapped r.text) =
        some (.object [("method", .text r.method), ("params", .array r.params)]) ∧
      ∀ r' : Request, r'.FitsDepth →
        (r'.text = r.text ↔ r'.method = r.method ∧ r'.params = r.params) := by
  have read := Request.read_text fits
  refine ⟨?_, read, ?_⟩
  · intro c mem
    rw [Request.text, Json.print, String.toList_ofList] at mem
    exact IsClean.chars _ c mem
  · intro r' fits'
    constructor
    · intro same
      have read' := Request.read_text fits'
      rw [same, read] at read'
      exact Request.object_inj (Option.some.inj read').symm
    · rintro ⟨method, params⟩
      rw [Request.text, Request.text, method, params]

/-- A method with control characters, the greatest and the least integer, and an object within an
array. -/
theorem request_read_back_nested :
    let params : List Json :=
      [.ofInt 0xFFFFFFFFFFFFFFFF, .array [.ofInt (-0x8000000000000000), .object []],
       .object [("", .null), ("\x00", .bool true), ("é", .text "\"\\𝄞")]]
    let r : Request := ⟨"a\n\x1fb", params⟩
    r.FitsDepth ∧
      Json.ofText? Json.Tree.depthLimit (gapped r.text) =
        some (.object [("method", .text r.method), ("params", .array r.params)]) := by
  intro params r
  have fits : r.FitsDepth := by
    have object : (Json.object []).FitsWithin 124 :=
      @Json.FitsWithin.object 123 [] (by decide) (by simp)
    have array : (Json.array [.ofInt (-0x8000000000000000), .object []]).FitsWithin 125 := by
      refine @Json.FitsWithin.array 124 _ ?_
      simp only [List.forall_mem_cons]
      exact ⟨.int ⟨by decide, by decide⟩, object, by simp⟩
    have members : (Json.object
        [("", .null), ("\x00", .bool true), ("é", .text "\"\\𝄞")]).FitsWithin 125 := by
      refine @Json.FitsWithin.object 124 _ (by decide) ?_
      simp only [List.forall_mem_cons]
      exact ⟨.null, .bool, .text, by simp⟩
    simp only [Request.FitsDepth, r, params, List.forall_mem_cons]
    exact ⟨.int ⟨by decide, by decide⟩, array, members, by simp⟩
  exact ⟨fits, (request_read_back r fits).2.1⟩

end DaemonWatch
