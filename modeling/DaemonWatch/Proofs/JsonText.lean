/-
  Printed JSON reads back as the value.

  1. **What is printed.**  A character of a string is printed in one of three ways
     (`escapeChar_cases`), and each of them is a spelling of it; an integer is printed by its digits
     (`isSpelledBy_intText`).  So the text of a value spells a tree (`tree?`), as long as all its
     numbers are integers (`areSpelledBy_chars`), and is read as this tree (`treeOfText?_print`).

  2. **What the tree is worth.**  Reading keeps an integer exactly when 64 bits hold it, signed or
     unsigned (`value?_ofInt`), puts the members of an object in the order of their keys, and
     refuses to go deeper than it is told.  A value that none of this changes is readable
     (`IsReadable`), and its tree has that value (`IsReadable.exists_tree`).

  3. **Result** (`ofText?_print`), for every value that is readable.  Doubles are not among them,
     since a double is rounded more than once when it is read, and need not come out as it was
     printed.
-/
import DaemonWatch.Json.Printer
import DaemonWatch.Proofs.JsonGrammar

namespace DaemonWatch.Json

open Text

/-! ## Printed strings -/

theorem hexDigit?_hexDigit {n : Nat} (digit : n < 16) : hexDigit? (hexDigit n) = some n := by
  revert n
  decide

/-- A character is spelled by a letter behind a backslash, or, below U+0020, by its number, or it
stands for itself. -/
theorem escapeChar_cases (c : Char) :
    (∃ letter, unescape? letter = some c ∧ escapeChar c = ['\\', letter]) ∨
      (c.toNat < 0x20 ∧
        escapeChar c =
          ['\\', 'u', '0', '0', hexDigit (c.toNat / 16), hexDigit (c.toNat % 16)]) ∨
      (c ≠ '"' ∧ c ≠ '\\' ∧ ¬c.toNat < 0x20 ∧ escapeChar c = [c]) := by
  unfold escapeChar
  split_ifs with quote slash b f n r t control
  · exact .inl ⟨'"', by rw [quote]; decide, rfl⟩
  · exact .inl ⟨'\\', by rw [slash]; decide, rfl⟩
  · exact .inl ⟨'b', by rw [b]; decide, rfl⟩
  · exact .inl ⟨'f', by rw [f]; decide, rfl⟩
  · exact .inl ⟨'n', by rw [n]; decide, rfl⟩
  · exact .inl ⟨'r', by rw [r]; decide, rfl⟩
  · exact .inl ⟨'t', by rw [t]; decide, rfl⟩
  · exact .inr (.inl ⟨control, rfl⟩)
  · exact .inr (.inr ⟨quote, slash, control, rfl⟩)

/-- A character is spelled as it is printed. -/
theorem isSpelledBy_escapeChar (c : Char) :
    Piece.IsSpelledBy (.char c) ((escapeChar c).map some) := by
  rcases escapeChar_cases c with
    ⟨letter, stands, spelled⟩ | ⟨control, spelled⟩ | ⟨noQuote, noSlash, plain, spelled⟩
  · rw [spelled]
    exact .letter stands
  · have digits : AreDigits hexDigit? [0, 0, c.toNat / 16, c.toNat % 16]
        ['0', '0', hexDigit (c.toNat / 16), hexDigit (c.toNat % 16)] :=
      .cons rfl (.cons rfl (.cons (hexDigit?_hexDigit (by omega))
        (.cons (hexDigit?_hexDigit (by omega)) .nil)))
    have value : numeral 16 [0, 0, c.toNat / 16, c.toNat % 16] = c.toNat := by
      simp only [numeral, List.foldl_cons, List.foldl_nil]
      omega
    have piece : Piece.ofUnit c.toNat = .char c := by
      have small : ¬0xD800 ≤ c.toNat := by omega
      simp [Piece.ofUnit, small, Char.ofNat_toNat]
    have unit := Piece.IsSpelledBy.unit digits rfl
    rw [value, piece] at unit
    rw [spelled]
    exact unit
  · rw [spelled]
    exact .plain noQuote noSlash (Nat.not_lt.mp plain)

/-- The spelling of a string. -/
def pieces (s : String) : List Piece := s.toList.map .char

theorem decode?_map_char (cs : List Char) : Piece.decode? (cs.map .char) = some cs := by
  induction cs with
  | nil => rfl
  | cons c cs ih => simp only [List.map_cons, Piece.decode?, ih, Option.map_some]

@[simp] theorem string?_pieces (s : String) : Piece.string? (pieces s) = some s := by
  rw [Piece.string?, pieces, decode?_map_char, Option.map_some, String.ofList_toList]

/-- A string is spelled as it is printed. -/
theorem isSpelledBy_quoted (s : String) :
    Token.IsSpelledBy (.text (pieces s)) ((quoted s).map some) := by
  have body : Piece.AreSpelledBy (pieces s) ((s.toList.flatMap escapeChar).map some) := by
    rw [pieces]
    induction s.toList with
    | nil => exact .nil
    | cons c cs ih =>
      rw [List.flatMap_cons, List.map_append, List.map_cons]
      exact .cons (isSpelledBy_escapeChar c) ih
  have spelled := Token.IsSpelledBy.text body
  simpa [quoted] using spelled

/-! ## Printed integers -/

/-- The values of a number's decimal digits. -/
def decimalDigits (n : Nat) : List Nat :=
  if n < 10 then [n] else decimalDigits (n / 10) ++ [n % 10]

/-- The literal of an integer. -/
def Literal.ofInt (n : Int) : Literal := ⟨n < 0, decimalDigits n.natAbs, [], none⟩

theorem decimalDigits_of_lt {n : Nat} (small : n < 10) : decimalDigits n = [n] := by
  rw [decimalDigits, if_pos small]

theorem decimalDigits_of_le {n : Nat} (large : 10 ≤ n) :
    decimalDigits n = decimalDigits (n / 10) ++ [n % 10] := by
  rw [decimalDigits, if_neg (Nat.not_lt.mpr large)]

theorem toDigits_eq_map (n : Nat) : Nat.toDigits 10 n = (decimalDigits n).map Nat.digitChar := by
  induction n using Nat.strongRecOn with
  | ind n ih =>
    by_cases small : n < 10
    · rw [decimalDigits_of_lt small, Nat.toDigits_of_lt_base small]
      rfl
    · have large : 10 ≤ n := Nat.not_lt.mp small
      rw [decimalDigits_of_le large, Nat.toDigits_of_base_le (by decide) large,
        ih (n / 10) (by omega), List.map_append]
      rfl

theorem lt_of_mem_decimalDigits {n d : Nat} (mem : d ∈ decimalDigits n) : d < 10 := by
  induction n using Nat.strongRecOn with
  | ind n ih =>
    by_cases small : n < 10
    · rw [decimalDigits_of_lt small, List.mem_singleton] at mem
      omega
    · rw [decimalDigits_of_le (Nat.not_lt.mp small), List.mem_append, List.mem_singleton] at mem
      rcases mem with mem | last
      · exact ih (n / 10) (by omega) mem
      · omega

/-- The first digit is zero only when there is no other. -/
theorem exists_decimalDigits_eq (n : Nat) :
    ∃ d ds, decimalDigits n = d :: ds ∧ (d = 0 → ds = []) := by
  -- For the numbers of two digits and more it is that of a smaller number, which is not zero.
  have first : ∃ d ds, decimalDigits n = d :: ds ∧ (d = 0 → n = 0) := by
    induction n using Nat.strongRecOn with
    | ind n ih =>
      by_cases small : n < 10
      · exact ⟨n, [], decimalDigits_of_lt small, id⟩
      · obtain ⟨d, ds, digits, positive⟩ := ih (n / 10) (by omega)
        refine ⟨d, ds ++ [n % 10], ?_, by omega⟩
        rw [decimalDigits_of_le (Nat.not_lt.mp small), digits, List.cons_append]
  obtain ⟨d, ds, digits, positive⟩ := first
  refine ⟨d, ds, digits, ?_⟩
  intro zero
  rw [positive zero, decimalDigits_of_lt (by decide)] at digits
  cases digits
  rfl

/-- The digits of a number give the number. -/
theorem numeral_decimalDigits (n : Nat) : numeral 10 (decimalDigits n) = n := by
  induction n using Nat.strongRecOn with
  | ind n ih =>
    by_cases small : n < 10
    · rw [decimalDigits_of_lt small]
      simp [numeral]
    · rw [decimalDigits_of_le (Nat.not_lt.mp small), numeral_concat, ih (n / 10) (by omega)]
      omega

/-- An integer is spelled as it is printed. -/
theorem isSpelledBy_intText (n : Int) : (Literal.ofInt n).IsSpelledBy (intText n) := by
  obtain ⟨d, ds, digits, alone⟩ := exists_decimalDigits_eq n.natAbs
  have isWhole : IsWhole (decimalDigits n.natAbs) (Nat.toDigits 10 n.natAbs) := by
    refine ⟨?_, ?_, ?_⟩
    · rw [toDigits_eq_map, AreDigits, List.forall₂_map_right_iff, List.forall₂_same]
      intro e mem
      exact digit?_digitChar (lt_of_mem_decimalDigits mem)
    · rw [digits]
      exact List.cons_ne_nil _ _
    · intro zero
      rw [digits, List.head?_cons, Option.some.injEq] at zero
      rw [digits, zero, alone zero]
  have spelled := @Literal.IsSpelledBy.parts (n < 0) _ _ _ _ _ _ isWhole .none .none
  rw [List.append_nil, List.append_nil] at spelled
  have text : intText n = signChars (n < 0) ++ Nat.toDigits 10 n.natAbs := by
    by_cases negative : n < 0 <;> simp [intText, signChars, negative]
  rw [text]
  exact spelled

/-! ## Printed values -/

mutual

/-- The tree that the text of a value spells, if all its numbers are integers. -/
def tree? : Json → Option Tree
  | .null => some .null
  | .bool b => some (.bool b)
  | .number (.int n) => some (.number (.ofInt n))
  | .number (.double _) => none
  | .text s => some (.text (pieces s))
  | .array items => (itemTrees? items).map .array
  | .object members => (memberTrees? members).map .object

/-- The trees of an array's items. -/
def itemTrees? : List Json → Option (List Tree)
  | [] => some []
  | v :: rest => do return (← tree? v) :: (← itemTrees? rest)

/-- The trees of an object's members. -/
def memberTrees? : List (String × Json) → Option (List (List Piece × Tree))
  | [] => some []
  | (key, v) :: rest => do return (pieces key, ← tree? v) :: (← memberTrees? rest)

end

theorem itemTrees?_cons_eq_some {v : Json} {vs : List Json} {ts : List Tree}
    (spelled : itemTrees? (v :: vs) = some ts) :
    ∃ t rest, v.tree? = some t ∧ itemTrees? vs = some rest ∧ ts = t :: rest := by
  simp only [itemTrees?, Option.bind_eq_bind, Option.bind_eq_some_iff, Option.pure_def,
    Option.some.injEq] at spelled
  obtain ⟨t, first, rest, more, rfl⟩ := spelled
  exact ⟨t, rest, first, more, rfl⟩

theorem memberTrees?_cons_eq_some {key : String} {v : Json} {ms : List (String × Json)}
    {ts : List (List Piece × Tree)} (spelled : memberTrees? ((key, v) :: ms) = some ts) :
    ∃ t rest, v.tree? = some t ∧ memberTrees? ms = some rest ∧ ts = (pieces key, t) :: rest := by
  simp only [memberTrees?, Option.bind_eq_bind, Option.bind_eq_some_iff, Option.pure_def,
    Option.some.injEq] at spelled
  obtain ⟨t, first, rest, more, rfl⟩ := spelled
  exact ⟨t, rest, first, more, rfl⟩

-- The recursion is that of the printer.
mutual

/-- **The text of a value spells its tree.**  Values, items and members are shown together, as they
are printed; between them there is no space, which the grammar allows. -/
theorem areSpelledBy_chars : ∀ (v : Json) {t : Tree}, v.tree? = some t →
    Token.AreSpelledBy t.tokens ((chars v).map some)
  | .null, t, spelled => by
    cases spelled
    exact .single (.word (w := "null") (by decide))
  | .bool true, t, spelled => by
    cases spelled
    exact .single (.word (w := "true") (by decide))
  | .bool false, t, spelled => by
    cases spelled
    exact .single (.word (w := "false") (by decide))
  | .number (.int n), t, spelled => by
    cases spelled
    exact .single (.number (isSpelledBy_intText n))
  | .text s, t, spelled => by
    cases spelled
    exact .single (isSpelledBy_quoted s)
  | .array items, t, spelled => by
    obtain ⟨ts, each, rfl⟩ := Option.map_eq_some_iff.mp spelled
    have body := areSpelledBy_itemsChars items each
    have close : Token.AreSpelledBy [.closeArray] [some ']'] := .single (.mark (by decide))
    rw [chars, List.cons_append, List.map_cons, List.map_append]
    exact .token (.mark (by decide)) (body.append close)
  | .object members, t, spelled => by
    obtain ⟨ts, each, rfl⟩ := Option.map_eq_some_iff.mp spelled
    have body := areSpelledBy_membersChars members each
    have close : Token.AreSpelledBy [.closeObject] [some '\x7d'] := .single (.mark (by decide))
    rw [chars, List.cons_append, List.map_cons, List.map_append]
    exact .token (.mark (by decide)) (body.append close)

/-- The text of an array's items spells them. -/
theorem areSpelledBy_itemsChars : ∀ (vs : List Json) {ts : List Tree}, itemTrees? vs = some ts →
    Token.AreSpelledBy (Tree.itemsTokens ts) ((itemsChars vs).map some)
  | [], ts, spelled => by
    cases spelled
    exact .nil
  | [v], ts, spelled => by
    obtain ⟨t, _, first, last, rfl⟩ := itemTrees?_cons_eq_some spelled
    cases last
    exact areSpelledBy_chars v first
  | v :: w :: vs, ts, spelled => by
    obtain ⟨t, _, first, more, rfl⟩ := itemTrees?_cons_eq_some spelled
    obtain ⟨u, us, _, _, rfl⟩ := itemTrees?_cons_eq_some more
    have body := areSpelledBy_itemsChars (w :: vs) more
    have comma : Token.IsSpelledBy .comma [some ','] := .mark (by decide)
    simp only [itemsChars, List.map_append, List.map_cons]
    exact (areSpelledBy_chars v first).append (.token comma body)

/-- The text of an object's members spells them. -/
theorem areSpelledBy_membersChars : ∀ (ms : List (String × Json))
    {ts : List (List Piece × Tree)}, memberTrees? ms = some ts →
    Token.AreSpelledBy (Tree.membersTokens ts) ((membersChars ms).map some)
  | [], ts, spelled => by
    cases spelled
    exact .nil
  | [(key, v)], ts, spelled => by
    obtain ⟨t, _, first, last, rfl⟩ := memberTrees?_cons_eq_some spelled
    cases last
    rw [membersChars, List.map_append, List.map_cons]
    exact .token (isSpelledBy_quoted key) (.token (.mark (by decide)) (areSpelledBy_chars v first))
  | (key, v) :: (key', w) :: ms, ts, spelled => by
    obtain ⟨t, _, first, more, rfl⟩ := memberTrees?_cons_eq_some spelled
    obtain ⟨u, us, _, _, rfl⟩ := memberTrees?_cons_eq_some more
    have body := areSpelledBy_membersChars ((key', w) :: ms) more
    have comma : Token.IsSpelledBy .comma [some ','] := .mark (by decide)
    have value := (areSpelledBy_chars v first).append (.token comma body)
    simp only [membersChars, List.append_assoc, List.cons_append, List.map_append, List.map_cons]
    exact .token (isSpelledBy_quoted key) (.token (.mark (by decide)) value)

end

/-- The text of a value is read as its tree. -/
theorem treeOfText?_print {v : Json} {t : Tree} (spelled : v.tree? = some t) :
    Tree.ofText? (gapped v.print) = some t := by
  have text := areSpelledBy_chars v spelled
  rw [Tree.ofText?_eq_some_iff, Tree.IsSpelledBy, gapped, print, String.toList_ofList]
  exact text

/-! ## From trees to values -/

/-- That an integer is kept exactly: 64 bits hold it, signed or unsigned. -/
def IsKept (n : Int) : Prop := minInt64 ≤ n ∧ n ≤ maxUInt64

theorem le_foldl_digits (a : Nat) (ds : List Nat) : a ≤ ds.foldl (fun n d => n * 10 + d) a := by
  induction ds generalizing a with
  | nil => exact Nat.le_refl a
  | cons d ds ih =>
    have larger : a ≤ a * 10 + d := by omega
    exact Nat.le_trans larger (ih _)

/-- Digits are absorbed when the number that they spell fits. -/
theorem absorb_eq_nil_iff {a n : Nat} {ds : List Nat} (bound : a ≤ maxUInt64) :
    absorb a ds = (n, []) ↔ ds.foldl (fun n d => n * 10 + d) a = n ∧ n ≤ maxUInt64 := by
  induction ds generalizing a with
  | nil =>
    rw [absorb, List.foldl_nil, Prod.mk.injEq]
    constructor
    · rintro ⟨rfl, -⟩
      exact ⟨rfl, bound⟩
    · rintro ⟨rfl, -⟩
      exact ⟨rfl, rfl⟩
  | cons d ds ih =>
    rw [absorb, List.foldl_cons]
    split_ifs with fits
    · exact ih fits
    · have larger := le_foldl_digits (a * 10 + d) ds
      constructor
      · intro same
        cases same
      · rintro ⟨rfl, small⟩
        omega

/-- The digits of a number that 64 bits hold give the number. -/
theorem absorb_decimalDigits {n : Nat} (bound : n ≤ maxUInt64) :
    absorb 0 (decimalDigits n) = (n, []) :=
  (absorb_eq_nil_iff (Nat.zero_le _)).mpr ⟨numeral_decimalDigits n, bound⟩

/-- The literal of an integer that is kept exactly spells it. -/
theorem int?_ofInt {n : Int} (kept : IsKept n) : (Literal.ofInt n).int? = some n := by
  obtain ⟨least, greatest⟩ := kept
  have bound : n.natAbs ≤ maxUInt64 := by
    simp only [minInt64, maxUInt64] at *
    omega
  simp only [Literal.int?, Literal.ofInt, absorb_decimalDigits bound]
  by_cases negative : n < 0
  · have value : -(n.natAbs : Int) = n := by omega
    have nonzero : n.natAbs ≠ 0 := by omega
    simp only [negative, value, nonzero, Int.not_lt.mpr least, decide_true, decide_false,
      Bool.not_true, Bool.or_self, Bool.false_eq_true, if_false]
  · have value : (n.natAbs : Int) = n := by omega
    simp only [negative, value, decide_false, Bool.not_false, if_true]

/-- The literal of an integer that is kept exactly stands for it. -/
theorem value?_ofInt {n : Int} (kept : IsKept n) : (Literal.ofInt n).value? = some (.int n) := by
  rw [Literal.value?, int?_ofInt kept]

mutual

/-- That a value can be read with a depth left for nesting: its integers are kept exactly, and the
members of its objects stand in order. -/
def IsReadable (depth : Nat) : Json → Prop
  | .null | .bool _ | .text _ => True
  | .number (.int n) => IsKept n
  | .number (.double _) => False
  | .array items => 1 < depth ∧ AreReadable (depth - 1) items
  | .object members =>
    1 < depth ∧ ofMembers members = .object members ∧ AreMembersReadable (depth - 1) members

/-- That the items of an array can be read. -/
def AreReadable (depth : Nat) : List Json → Prop
  | [] => True
  | v :: rest => v.IsReadable depth ∧ AreReadable depth rest

/-- That the members of an object can be read. -/
def AreMembersReadable (depth : Nat) : List (String × Json) → Prop
  | [] => True
  | (_, v) :: rest => v.IsReadable depth ∧ AreMembersReadable depth rest

end

mutual

/-- The tree of a value that can be read has the value. -/
theorem IsReadable.exists_tree : ∀ (v : Json) {depth : Nat}, v.IsReadable depth →
    ∃ t, v.tree? = some t ∧ t.value? depth = some v
  | .null, _, _ => ⟨_, rfl, rfl⟩
  | .bool b, _, _ => ⟨_, rfl, rfl⟩
  | .number (.int n), _, kept => by
    refine ⟨_, rfl, ?_⟩
    rw [Tree.value?, value?_ofInt kept, Option.map_some]
  | .text s, _, _ => by
    refine ⟨_, rfl, ?_⟩
    rw [Tree.value?, string?_pieces, Option.map_some]
  | .array items, depth, ⟨room, readable⟩ => by
    obtain ⟨ts, spelled, values⟩ := AreReadable.exists_trees items readable
    refine ⟨.array ts, by rw [tree?, spelled, Option.map_some], ?_⟩
    rw [Tree.value?, if_neg (Nat.not_le.mpr room), values, Option.map_some]
  | .object members, depth, ⟨room, ordered, readable⟩ => by
    obtain ⟨ts, spelled, values⟩ := AreMembersReadable.exists_trees members readable
    refine ⟨.object ts, by rw [tree?, spelled, Option.map_some], ?_⟩
    rw [Tree.value?, if_neg (Nat.not_le.mpr room), values, Option.map_some, ordered]

/-- The trees of items that can be read have the items. -/
theorem AreReadable.exists_trees : ∀ (vs : List Json) {depth : Nat}, AreReadable depth vs →
    ∃ ts, itemTrees? vs = some ts ∧ Tree.values? depth ts = some vs
  | [], _, _ => ⟨_, rfl, rfl⟩
  | v :: vs, depth, ⟨first, rest⟩ => by
    obtain ⟨t, spelled, value⟩ := IsReadable.exists_tree v first
    obtain ⟨ts, spelled', values⟩ := AreReadable.exists_trees vs rest
    exact ⟨t :: ts, by simp [itemTrees?, spelled, spelled'], by simp [Tree.values?, value, values]⟩

/-- The trees of members that can be read have the members. -/
theorem AreMembersReadable.exists_trees : ∀ (ms : List (String × Json)) {depth : Nat},
    AreMembersReadable depth ms →
    ∃ ts, memberTrees? ms = some ts ∧ Tree.members? depth ts = some ms
  | [], _, _ => ⟨_, rfl, rfl⟩
  | (key, v) :: ms, depth, ⟨first, rest⟩ => by
    obtain ⟨t, spelled, value⟩ := IsReadable.exists_tree v first
    obtain ⟨ts, spelled', values⟩ := AreMembersReadable.exists_trees ms rest
    exact ⟨(pieces key, t) :: ts, by simp [memberTrees?, spelled, spelled'],
      by simp [Tree.members?, value, values]⟩

end

/-- **A value is read back from its text.**  The text is read as the tree that it spells, and the
tree has the value. -/
theorem ofText?_print {v : Json} {depth : Nat} (readable : v.IsReadable depth) :
    ofText? depth (gapped v.print) = some v := by
  obtain ⟨t, spelled, value⟩ := readable.exists_tree v
  rw [ofText?, treeOfText?_print spelled]
  exact value

end DaemonWatch.Json
