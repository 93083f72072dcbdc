/-
  Integers in payloads, out of range ones too.

  1. **Integer literals** (`Literal.integer`): a sign and digits, as many as there may be.  Digits
     are absorbed while 64 bits hold the number; when some are left over, the number is beyond that
     (`lt_numeral_of_absorb`).  So a literal is kept exactly, or it is large, or it is a zero with a
     minus sign (`Literal.cases_of_int?_eq_none`).

  2. **Large literals** are read as floating point numbers, of which little has to be known: such a
     number is on the same side of zero, and not nearer to it than 2^63, whatever is lost in
     rounding (`le_truncate_of_large`).

  3. **The crux (`Literal.toInt64_of_value?`)**: whichever of its three readings the number of a
     literal has, the result is the integer, moved into the range of 64 signed bits.  For the
     integers this is `Number.toInt64_eq`; for a floating point number both are at the same bound.

  4. **Bridge to payloads.**  In an object that is read from text the last member with a key counts
     (`Tree.get?_of_last`), and its digits are decimal since they are spelled
     (`Tree.decimal_of_member`).  So a field is what its digits say, within the range
     (`integer_fields_saturate`).
-/
import DaemonWatch.Payload
import DaemonWatch.Proofs.JsonText
import DaemonWatch.Proofs.PayloadMembers
import DaemonWatch.Proofs.Rounding

namespace DaemonWatch.Json

open Text

/-! ## Integer literals -/

/-- The literal of an integer: a sign, if there is one, and digits. -/
def Literal.integer (negative : Bool) (digits : List Nat) : Literal := ⟨negative, digits, [], none⟩

/-- The integer of a sign and digits. -/
def signed (negative : Bool) (digits : List Nat) : Int :=
  if negative then -(numeral 10 digits : Int) else numeral 10 digits

theorem numeral_of_absorbed {digits : List Nat} {n : Nat} (absorbed : absorb 0 digits = (n, [])) :
    numeral 10 digits = n :=
  ((absorb_eq_nil_iff (Nat.zero_le _)).mp absorbed).1

/-- Where digits are left over, the significand has no room for the first of them. -/
theorem full_of_absorb {a n d : Nat} {ds rest : List Nat} (left : absorb a ds = (n, d :: rest)) :
    d ∈ ds ∧ maxUInt64 < n * 10 + d := by
  induction ds generalizing a with
  | nil => cases left
  | cons e ds ih =>
    rw [absorb] at left
    split_ifs at left with fits
    · obtain ⟨mem, full⟩ := ih left
      exact ⟨List.mem_cons_of_mem e mem, full⟩
    · cases left
      exact ⟨List.mem_cons_self, Nat.not_le.mp fits⟩

/-- An integer from 2^63 on is read as a floating point number from 2^63 on. -/
theorem le_truncate_of_large {digits excess : List Nat} {n : Nat} {m : Binary64.Magnitude}
    (decimal : ∀ d ∈ digits, d < 10) (absorbed : absorb 0 digits = (n, excess))
    (large : 2 ^ 63 ≤ numeral 10 digits)
    (read : Binary64.ofDecimal? n excess.length = some m) : 2 ^ 63 ≤ m.truncate := by
  cases excess with
  | nil =>
    rw [numeral_of_absorbed absorbed] at large
    exact Binary64.two_pow_le_ofDecimal? (j := 63) (k := 0) large (by decide) read
  | cons d rest =>
    -- The significand alone is not below 2^60, and a power of ten not below 2^3 comes to it.
    obtain ⟨mem, full⟩ := full_of_absorb absorbed
    have digit := decimal d mem
    have most : 2 ^ 60 ≤ n := by
      simp only [maxUInt64] at full
      omega
    have tens : 2 ^ 3 ≤ 10 ^ (d :: rest).length := by
      rw [List.length_cons, Nat.pow_succ]
      have positive : 0 < 10 ^ rest.length := Nat.pow_pos (by decide)
      omega
    exact Binary64.two_pow_le_ofDecimal? most tens read

/-- The floating point number of an integer literal. -/
theorem double?_integer {negative : Bool} {digits excess : List Nat} {n : Nat}
    (absorbed : absorb 0 digits = (n, excess)) :
    (Literal.integer negative digits).double? =
      (Binary64.ofDecimal? n excess.length).map (⟨negative, ·⟩) := by
  simp only [Literal.double?, Literal.integer, absorbed, absorb, List.length_nil, Nat.cast_zero,
    Option.getD_none]
  simp

/-- Digits of which some are left over give a number that 64 bits do not hold. -/
theorem lt_numeral_of_absorb {digits rest : List Nat} {n d : Nat}
    (absorbed : absorb 0 digits = (n, d :: rest)) : maxUInt64 < numeral 10 digits := by
  rw [← Nat.not_le]
  intro small
  have all := (absorb_eq_nil_iff (Nat.zero_le _)).mpr ⟨rfl, small⟩
  cases absorbed.symm.trans all

namespace Literal

variable {negative : Bool} {digits : List Nat}

/-- A literal that is kept exactly stands for its integer. -/
theorem eq_of_int? {i : Int} (kept : (integer negative digits).int? = some i) :
    i = signed negative digits := by
  rcases absorbed : absorb 0 digits with ⟨n, _ | ⟨d, rest⟩⟩
  · simp only [int?, integer, absorbed] at kept
    rw [signed, numeral_of_absorbed absorbed]
    cases negative with
    | false =>
      cases kept
      rfl
    | true =>
      simp only [Bool.not_true, Bool.false_eq_true, if_false] at kept
      split_ifs at kept
      cases kept
      rfl
  · simp only [int?, integer, absorbed] at kept
    cases kept

/-- A literal that is not kept exactly has a minus sign before a zero, or its digits give a number
from 2^63 on, and from 2^64 on if there is no minus sign. -/
theorem cases_of_int?_eq_none (other : (integer negative digits).int? = none) :
    (negative = true ∧ absorb 0 digits = (0, [])) ∨
      (2 ^ 63 ≤ numeral 10 digits ∧ (negative = false → maxUInt64 < numeral 10 digits)) := by
  have range : maxUInt64 = 18446744073709551615 := rfl
  have least : minInt64 = -9223372036854775808 := rfl
  rcases absorbed : absorb 0 digits with ⟨n, _ | ⟨d, rest⟩⟩
  · simp only [int?, integer, absorbed] at other
    rw [numeral_of_absorbed absorbed]
    cases negative with
    | false => cases other
    | true =>
      simp only [Bool.not_true, Bool.false_eq_true, if_false] at other
      split_ifs at other with none
      simp only [Bool.or_eq_true, decide_eq_true_eq] at none
      rcases none with rfl | large
      · exact .inl ⟨rfl, rfl⟩
      · exact .inr ⟨by omega, fun no => by cases no⟩
  · have large := lt_numeral_of_absorb absorbed
    exact .inr ⟨by omega, fun _ => large⟩

/-- **An integer literal stands for its integer, moved into the range of 64 signed bits.**  Where
the literal is kept exactly this is the clamp itself.  Where it is not, its floating point number is
at least as large as 2^63 and of the same sign, so both are moved to the same bound; only a zero
with a minus sign is neither. -/
theorem toInt64_of_value? (decimal : ∀ d ∈ digits, d < 10) {x : Number}
    (stands : (integer negative digits).value? = some x) :
    x.toInt64 = max minInt64 (min maxInt64 (signed negative digits)) := by
  unfold value? at stands
  split at stands
  next i kept =>
    cases stands
    rw [Number.toInt64_eq, Number.truncate, eq_of_int? kept]
  next other =>
    rcases absorbed : absorb 0 digits with ⟨n, excess⟩
    rw [double?_integer absorbed, Option.map_map, Option.map_eq_some_iff] at stands
    obtain ⟨m, read, rfl⟩ := stands
    rw [Number.toInt64_eq]
    show max minInt64 (min maxInt64 (Binary64.truncate ⟨negative, m⟩)) = _
    have range : maxUInt64 = 18446744073709551615 := rfl
    have least : minInt64 = -9223372036854775808 := rfl
    have greatest : maxInt64 = 9223372036854775807 := rfl
    rcases cases_of_int?_eq_none other with ⟨rfl, zero⟩ | ⟨large, larger⟩
    · cases absorbed.symm.trans zero
      rw [Binary64.ofDecimal?_zero read, signed, numeral_of_absorbed zero, Binary64.truncate,
        Binary64.Magnitude.truncate_zero]
    · -- Both are beyond the same bound.
      have beyond := le_truncate_of_large decimal absorbed large read
      unfold Binary64.truncate signed
      cases negative with
      | false =>
        have larger := larger rfl
        simp only [Bool.false_eq_true, if_false]
        omega
      | true =>
        simp only [if_true]
        omega

end Literal

/-! ## In text -/

/-- A number among tokens is spelled where they are. -/
theorem Token.AreSpelledBy.exists_of_number {ts : List Token} {s : Gapped} {l : Literal}
    (spelled : AreSpelledBy ts s) (mem : .number l ∈ ts) : ∃ cs, l.IsSpelledBy cs := by
  induction spelled with
  | nil => cases mem
  | space _ _ ih => exact ih mem
  | token first _ ih =>
    rcases List.mem_cons.mp mem with rfl | mem
    · cases first with
      | mark other => simp [marks] at other
      | word other => simp [words] at other
      | number spelled => exact ⟨_, spelled⟩
    · exact ih mem

/-- A number that is a member of an object is among its tokens. -/
theorem Tree.mem_tokens_of_member {members : List (List Piece × Tree)} {name : List Piece}
    {l : Literal} (mem : (name, .number l) ∈ members) : .number l ∈ (object members).tokens := by
  have inside : Token.number l ∈ membersTokens members ++ [.comma] := by
    rw [membersTokens_comma (List.ne_nil_of_mem mem), List.mem_flatMap]
    exact ⟨_, mem, by simp [memberTokens, tokens]⟩
  rw [tokens]
  simpa using inside

/-- The digits of an integer that is a member of an object in text are decimal. -/
theorem Tree.decimal_of_member {members : List (List Piece × Tree)} {name : List Piece}
    {negative : Bool} {digits : List Nat} {s : Gapped} (spelled : (object members).IsSpelledBy s)
    (mem : (name, .number (.integer negative digits)) ∈ members) : ∀ d ∈ digits, d < 10 := by
  obtain ⟨cs, spelled⟩ := Token.AreSpelledBy.exists_of_number spelled (mem_tokens_of_member mem)
  cases spelled with
  | parts isWhole =>
    have each := isWhole.digits.imp fun d c read => And.intro (eq_digitChar_of_digit? read).1 read
    exact ((List.forall₂_and_left _ _).mp each).1

end DaemonWatch.Json

namespace DaemonWatch.Payload

open Json Text

/-- **Integer fields are what their digits say, within the range.**  In an object that is read from
text the last value for a key is an integer literal, of any length; then the field is that integer,
moved to the nearest of 64 signed bits, the number of bytes is the same but not below zero, and the
flag is set exactly when the integer is not zero. -/
theorem integer_fields_saturate {s : Gapped} {before after : List (List Piece × Tree)}
    {name : List Piece} {negative : Bool} {digits : List Nat} {depth : Nat} {payload : Json}
    {key : String}
    (spelled : (Tree.object
      (before ++ (name, .number ⟨negative, digits, [], none⟩) :: after)).IsSpelledBy s)
    (read : ofText? depth s = some payload) (named : Piece.string? name = some key)
    (last : ∀ m ∈ after, Piece.string? m.1 ≠ some key) :
    let x : Int := if negative then -(numeral 10 digits : Int) else numeral 10 digits
    integer payload key = max (-0x8000000000000000) (min 0x7FFFFFFFFFFFFFFF x) ∧
      byteCount payload key = max 0 (min 0x7FFFFFFFFFFFFFFF x) ∧
      (flag payload key = true ↔ x ≠ 0) := by
  intro x
  obtain ⟨t, tree, value⟩ := Option.bind_eq_some_iff.mp read
  obtain rfl := Option.some.inj (tree.symm.trans (Tree.ofText?_eq_some_iff.mpr spelled))
  have decimal := Tree.decimal_of_member spelled (List.mem_append_right _ List.mem_cons_self)
  obtain ⟨v, d, found, number⟩ := Tree.get?_of_last value named last
  obtain ⟨y, stands, rfl⟩ := Option.map_eq_some_iff.mp number
  have field : integer payload key = max (-0x8000000000000000) (min 0x7FFFFFFFFFFFFFFF x) := by
    rw [integer, found]
    exact Literal.toInt64_of_value? decimal stands
  refine ⟨field, ?_, ?_⟩
  · rw [byteCount, field]
    omega
  · rw [flag, field, bne_iff_ne]
    omega

/-- Of two members the last counts, whose key is spelled otherwise, and whose 23 digits neither
signed nor unsigned bits hold. -/
theorem integer_fields_saturate_last_of_two :
    let s := gapped "\x7b\"n\": 7, \"\\u006e\": -18446744073709551616000\x7d"
    ∃ payload, ofText? 128 s = some payload ∧
      integer payload "n" = -0x8000000000000000 ∧ byteCount payload "n" = 0 ∧
      flag payload "n" = true := by
  intro s
  have accepted : (ofText? 128 s).isSome = true := by decide +kernel
  obtain ⟨payload, read⟩ := Option.isSome_iff_exists.mp accepted
  have tree : Tree.ofText? s = some (.object
      ([([.char 'n'], .number ⟨false, [7], [], none⟩)] ++
        ([.char 'n'], .number ⟨true,
          [1, 8, 4, 4, 6, 7, 4, 4, 0, 7, 3, 7, 0, 9, 5, 5, 1, 6, 1, 6, 0, 0, 0], [], none⟩) ::
            [])) := by
    rfl
  have named : Piece.string? [.char 'n'] = some "n" := by decide
  obtain ⟨field, bytes, set⟩ :=
    integer_fields_saturate (Tree.ofText?_eq_some_iff.mp tree) read named (by simp)
  have value : numeral 10
      [1, 8, 4, 4, 6, 7, 4, 4, 0, 7, 3, 7, 0, 9, 5, 5, 1, 6, 1, 6, 0, 0, 0] =
        18446744073709551616000 := by decide
  rw [value] at field bytes set
  exact ⟨payload, read, field, Int.natCast_eq_zero.mp bytes, set.mpr (by decide)⟩

end DaemonWatch.Payload
