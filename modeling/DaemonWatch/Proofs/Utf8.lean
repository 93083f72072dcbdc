/-
  What is written in UTF-8 is read back, and nothing else is read as text.

  1. **From the character to the bytes and back.**  Each of the four lengths of a sequence holds the
     characters of its range (`pair?_eq`, `triple?_eq`, `quadruple?_eq`), so the bytes of a
     character read as that character (`first?_encodeChar`), and the bytes of a string as the
     string, without a gap (`decode_encode`).

  2. **From the bytes to the character and back.**  A character that bytes begin with is written
     with just these bytes (`encodeChar_of_first?`): no length holds a character that a shorter one
     does, and none a half of a surrogate pair.  So bytes that read without a gap are those of the
     string that they read as (`whole?_decode_eq_some_iff`).

  3. **The standard library** writes the same bytes (`encodeChar_eq`, `toByteArray_encode`).  With 1
     and 2, bytes leave a gap exactly when they are not valid UTF-8 to it
     (`whole?_decode_eq_none_iff`).
-/
import DaemonWatch.Text.Utf8

namespace DaemonWatch.Text.Utf8

/-! ## Bytes of a character -/

theorem toNat_ofNat {n : Nat} (small : n < 256) : (UInt8.ofNat n).toNat = n := by
  rw [UInt8.toNat_ofNat']
  exact Nat.mod_eq_of_lt small

/-- Two bytes hold what has 8 to 11 bits. -/
theorem pair?_eq {a b : UInt8} {n : Nat} (least : 0x80 ≤ n) (bound : n < 0x800)
    (first : a.toNat = 0xC0 + n / 64) (second : b.toNat = 0x80 + n % 64) :
    pair? a b = some (Char.ofNat n) := by
  have value : (0xC0 + n / 64) % 32 * 64 + (0x80 + n % 64) % 64 = n := by omega
  simp only [pair?, isContinuation, low, UInt8.le_iff_toNat_le, UInt8.lt_iff_toNat_lt,
    UInt8.reduceToNat, first, second, value]
  rw [if_pos]
  simp only [Bool.and_eq_true, decide_eq_true_eq]
  omega

/-- Three bytes hold what has 12 to 16 bits and is no half of a surrogate pair. -/
theorem triple?_eq {a b c : UInt8} {n : Nat} (least : 0x800 ≤ n) (bound : n < 0x10000)
    (scalar : n < 0xD800 ∨ 0xDFFF < n) (first : a.toNat = 0xE0 + n / 4096)
    (second : b.toNat = 0x80 + n / 64 % 64) (third : c.toNat = 0x80 + n % 64) :
    triple? a b c = some (Char.ofNat n) := by
  have value : (0xE0 + n / 4096) % 16 * 4096 + (0x80 + n / 64 % 64) % 64 * 64 +
      (0x80 + n % 64) % 64 = n := by omega
  simp only [triple?, isContinuation, low, UInt8.le_iff_toNat_le, UInt8.lt_iff_toNat_lt,
    UInt8.reduceToNat, first, second, third, value]
  rw [if_pos]
  simp only [Bool.and_eq_true, Bool.not_eq_true', Bool.and_eq_false_iff, decide_eq_true_eq,
    decide_eq_false_iff_not]
  omega

/-- Four bytes hold what is beyond 16 bits, up to 10FFFF. -/
theorem quadruple?_eq {a b c d : UInt8} {n : Nat} (least : 0x10000 ≤ n) (bound : n < 0x110000)
    (first : a.toNat = 0xF0 + n / 262144) (second : b.toNat = 0x80 + n / 4096 % 64)
    (third : c.toNat = 0x80 + n / 64 % 64) (fourth : d.toNat = 0x80 + n % 64) :
    quadruple? a b c d = some (Char.ofNat n) := by
  have value : (0xF0 + n / 262144) % 8 * 262144 + (0x80 + n / 4096 % 64) % 64 * 4096 +
      (0x80 + n / 64 % 64) % 64 * 64 + (0x80 + n % 64) % 64 = n := by omega
  simp only [quadruple?, isContinuation, low, UInt8.le_iff_toNat_le, UInt8.lt_iff_toNat_lt,
    UInt8.reduceToNat, first, second, third, fourth, value]
  rw [if_pos]
  simp only [Bool.and_eq_true, decide_eq_true_eq]
  omega

/-- The bytes of a character read as that character, whatever follows them.  The four cases are the
lengths of a sequence; in each the first byte is in the range that tells the length. -/
theorem first?_encodeChar (c : Char) (rest : List UInt8) :
    first? (encodeChar c ++ rest) = some (c, (encodeChar c).length - 1) := by
  have scalar : c.toNat < 0xD800 ∨ (0xDFFF < c.toNat ∧ c.toNat < 0x110000) := c.valid
  simp only [encodeChar]
  split
  next one =>
    have lead := toNat_ofNat (n := c.toNat) (by omega)
    simp only [List.cons_append, first?, UInt8.lt_iff_toNat_lt, UInt8.reduceToNat, lead, one,
      if_true, Char.ofNat_toNat]
    rfl
  next =>
    split
    next two =>
      have lead := toNat_ofNat (n := 0xC0 + c.toNat / 64) (by omega)
      have range : ¬0xC0 + c.toNat / 64 < 0x80 ∧ 0xC0 + c.toNat / 64 < 0xE0 := by omega
      have read := pair?_eq (by omega) two lead (toNat_ofNat (by omega))
      simp only [List.cons_append, first?, UInt8.lt_iff_toNat_lt, UInt8.reduceToNat, lead, range,
        if_true, if_false, read, Char.ofNat_toNat]
      rfl
    next =>
      split
      next three =>
        have lead := toNat_ofNat (n := 0xE0 + c.toNat / 4096) (by omega)
        have range : ¬0xE0 + c.toNat / 4096 < 0x80 ∧ ¬0xE0 + c.toNat / 4096 < 0xE0 ∧
            0xE0 + c.toNat / 4096 < 0xF0 := by omega
        have read := triple?_eq (by omega) three (by omega) lead (toNat_ofNat (by omega))
          (toNat_ofNat (by omega))
        simp only [List.cons_append, first?, UInt8.lt_iff_toNat_lt, UInt8.reduceToNat, lead, range,
          if_true, if_false, read, Char.ofNat_toNat]
        rfl
      next =>
        have lead := toNat_ofNat (n := 0xF0 + c.toNat / 262144) (by omega)
        have range : ¬0xF0 + c.toNat / 262144 < 0x80 ∧ ¬0xF0 + c.toNat / 262144 < 0xE0 ∧
            ¬0xF0 + c.toNat / 262144 < 0xF0 := by omega
        have read := quadruple?_eq (by omega) (by omega) lead (toNat_ofNat (by omega))
          (toNat_ofNat (by omega)) (toNat_ofNat (by omega))
        simp only [List.cons_append, first?, UInt8.lt_iff_toNat_lt, UInt8.reduceToNat, lead, range,
          if_false, read, Char.ofNat_toNat]
        rfl

theorem eq_ofNat_iff {b : UInt8} {n : Nat} (small : n < 256) : b = UInt8.ofNat n ↔ b.toNat = n := by
  rw [← UInt8.toNat_inj, toNat_ofNat small]

/-- A byte below 80 occurs only in the character of its number. -/
theorem mem_encodeChar_iff {b : UInt8} (ascii : b.toNat < 0x80) (c : Char) :
    b ∈ encodeChar c ↔ b.toNat = c.toNat := by
  have scalar : c.toNat < 0xD800 ∨ (0xDFFF < c.toNat ∧ c.toNat < 0x110000) := c.valid
  simp only [encodeChar]
  -- All bytes of the longer sequences are at least 80, and so are the characters written so.
  split
  next one => rw [List.mem_singleton, eq_ofNat_iff (by omega)]
  next =>
    split
    next two =>
      simp only [List.mem_cons, List.not_mem_nil, or_false]
      rw [eq_ofNat_iff (by omega), eq_ofNat_iff (by omega)]
      omega
    next =>
      split
      next three =>
        simp only [List.mem_cons, List.not_mem_nil, or_false]
        rw [eq_ofNat_iff (by omega), eq_ofNat_iff (by omega), eq_ofNat_iff (by omega)]
        omega
      next =>
        simp only [List.mem_cons, List.not_mem_nil, or_false]
        rw [eq_ofNat_iff (by omega), eq_ofNat_iff (by omega), eq_ofNat_iff (by omega),
          eq_ofNat_iff (by omega)]
        omega

/-! ## Bytes of a string -/

theorem encode_append (s t : String) : encode (s ++ t) = encode s ++ encode t := by
  rw [encode, String.toList_append, List.flatMap_append, encode, encode]

theorem encodeChar_ne_nil (c : Char) : encodeChar c ≠ [] := by
  simp only [encodeChar]
  split
  · exact List.cons_ne_nil _ _
  · split
    · exact List.cons_ne_nil _ _
    · split <;> exact List.cons_ne_nil _ _

/-- The bytes of a character read as that character, whatever follows. -/
theorem decode_encodeChar (c : Char) (rest : List UInt8) :
    decode (encodeChar c ++ rest) = some c :: decode rest := by
  have read := first?_encodeChar c rest
  obtain ⟨a, tail, bytes⟩ := List.exists_cons_of_ne_nil (encodeChar_ne_nil c)
  rw [bytes, List.cons_append] at read ⊢
  rw [decode, read]
  simp

/-- **The bytes of a string read as the string.**  It is an induction over its characters, each of
which takes just its own bytes, whatever follows. -/
theorem decode_encode (s : String) : decode (encode s) = gapped s := by
  rw [encode, gapped]
  induction s.toList with
  | nil => rw [List.flatMap_nil, decode, List.map_nil]
  | cons c cs ih => rw [List.flatMap_cons, decode_encodeChar, ih, List.map_cons]

/-- The bytes of a string read without a gap. -/
theorem whole?_decode_encode (s : String) : whole? (decode (encode s)) = some s.toList := by
  rw [decode_encode, gapped, whole?]
  induction s.toList with
  | nil => rfl
  | cons c cs ih => simp [ih]

/-! ## Only the bytes of a string read as the string -/

theorem isContinuation_iff {b : UInt8} :
    isContinuation b = true ↔ 0x80 ≤ b.toNat ∧ b.toNat < 0xC0 := by
  simp only [isContinuation, Bool.and_eq_true, decide_eq_true_eq, UInt8.le_iff_toNat_le,
    UInt8.lt_iff_toNat_lt]
  rfl

theorem toNat_charOfNat {n : Nat} (scalar : n.isValidChar) : (Char.ofNat n).toNat = n := by
  rw [Char.ofNat, dif_pos scalar]
  rfl

theorem ofNat_eq {a : UInt8} {n : Nat} (same : a.toNat = n) : UInt8.ofNat n = a := by
  rw [← same, UInt8.ofNat_toNat]

/-- What two bytes are read as is written with them. -/
theorem encodeChar_of_pair? {a b : UInt8} {c : Char} (read : pair? a b = some c) :
    encodeChar c = [a, b] := by
  simp only [pair?, Option.ite_none_right_eq_some, Option.some.injEq, Bool.and_eq_true,
    decide_eq_true_eq, isContinuation_iff, UInt8.le_iff_toNat_le, UInt8.lt_iff_toNat_lt,
    UInt8.reduceToNat] at read
  obtain ⟨bounds, rfl⟩ := read
  simp only [low]
  have value := toNat_charOfNat (n := a.toNat % 32 * 64 + b.toNat % 64) (Or.inl (by omega))
  simp only [encodeChar, value]
  rw [if_neg (by omega), if_pos (by omega), ofNat_eq (a := a) (by omega),
    ofNat_eq (a := b) (by omega)]

/-- What three bytes are read as is written with them. -/
theorem encodeChar_of_triple? {a b d : UInt8} {c : Char} (read : triple? a b d = some c) :
    encodeChar c = [a, b, d] := by
  simp only [triple?, Option.ite_none_right_eq_some, Option.some.injEq, Bool.and_eq_true,
    Bool.not_eq_true', Bool.and_eq_false_iff, decide_eq_true_eq, decide_eq_false_iff_not,
    isContinuation_iff, UInt8.le_iff_toNat_le, UInt8.lt_iff_toNat_lt, UInt8.reduceToNat] at read
  obtain ⟨bounds, rfl⟩ := read
  simp only [low] at bounds ⊢
  have value := toNat_charOfNat
    (n := a.toNat % 16 * 4096 + b.toNat % 64 * 64 + d.toNat % 64) (by
      unfold Nat.isValidChar
      omega)
  simp only [encodeChar, value]
  rw [if_neg (by omega), if_neg (by omega), if_pos (by omega), ofNat_eq (a := a) (by omega),
    ofNat_eq (a := b) (by omega), ofNat_eq (a := d) (by omega)]

/-- What four bytes are read as is written with them. -/
theorem encodeChar_of_quadruple? {a b d e : UInt8} {c : Char}
    (read : quadruple? a b d e = some c) : encodeChar c = [a, b, d, e] := by
  simp only [quadruple?, Option.ite_none_right_eq_some, Option.some.injEq, Bool.and_eq_true,
    decide_eq_true_eq, isContinuation_iff, UInt8.le_iff_toNat_le, UInt8.lt_iff_toNat_lt,
    UInt8.reduceToNat] at read
  obtain ⟨bounds, rfl⟩ := read
  simp only [low] at bounds ⊢
  have value := toNat_charOfNat
    (n := a.toNat % 8 * 262144 + b.toNat % 64 * 4096 + d.toNat % 64 * 64 + e.toNat % 64) (by
      unfold Nat.isValidChar
      omega)
  simp only [encodeChar, value]
  rw [if_neg (by omega), if_neg (by omega), if_neg (by omega), ofNat_eq (a := a) (by omega),
    ofNat_eq (a := b) (by omega), ofNat_eq (a := d) (by omega), ofNat_eq (a := e) (by omega)]

/-- The character that bytes begin with is written with the bytes that it takes.  The first byte
says how many follow, and each length has been dealt with before (`encodeChar_of_pair?` and the
others). -/
theorem encodeChar_of_first? {a : UInt8} {tail : List UInt8} {c : Char} {more : Nat}
    (read : first? (a :: tail) = some (c, more)) :
    encodeChar c ++ tail.drop more = a :: tail := by
  simp only [first?] at read
  split at read
  next one =>
    cases read
    have one : a.toNat < 0x80 := one
    have value := toNat_charOfNat (n := a.toNat) (Or.inl (by omega))
    simp only [encodeChar, value]
    rw [if_pos one, UInt8.ofNat_toNat]
    rfl
  next =>
    -- The first byte says how many follow; when there are fewer nothing is read.
    split at read
    next =>
      split at read
      next b rest =>
        obtain ⟨_, taken, same⟩ := Option.map_eq_some_iff.mp read
        cases same
        rw [encodeChar_of_pair? taken]
        rfl
      next => cases read
    next =>
      split at read
      next =>
        split at read
        next b d rest =>
          obtain ⟨_, taken, same⟩ := Option.map_eq_some_iff.mp read
          cases same
          rw [encodeChar_of_triple? taken]
          rfl
        next => cases read
      next =>
        split at read
        next b d e rest =>
          obtain ⟨_, taken, same⟩ := Option.map_eq_some_iff.mp read
          cases same
          rw [encodeChar_of_quadruple? taken]
          rfl
        next => cases read

/-- Bytes that read as characters without a gap are the bytes of these characters. -/
theorem flatMap_encodeChar_of_decode {bytes : List UInt8} {cs : List Char}
    (read : decode bytes = cs.map some) : cs.flatMap encodeChar = bytes := by
  induction bytes using decode.induct generalizing cs with
  | case1 =>
    rw [decode, eq_comm, List.map_eq_nil_iff] at read
    rw [read, List.flatMap_nil]
  | case2 a tail c more first ih =>
    rw [decode, first] at read
    obtain ⟨_, cs, rfl, same, rest⟩ := List.map_eq_cons_iff.mp read.symm
    cases same
    rw [List.flatMap_cons, ih rest.symm]
    exact encodeChar_of_first? first
  | case3 a tail no ih =>
    rw [decode, no] at read
    obtain ⟨_, _, _, same, _⟩ := List.map_eq_cons_iff.mp read.symm
    cases same

theorem whole?_eq_some_iff {t : Gapped} {cs : List Char} :
    whole? t = some cs ↔ t = cs.map some := by
  rw [whole?]
  induction t generalizing cs with
  | nil => cases cs <;> simp
  | cons g t ih =>
    rw [List.mapM_cons]
    cases g with
    | none => cases cs <;> simp
    | some c =>
      cases cs with
      | nil => simp [Option.bind_eq_some_iff]
      | cons c' cs => simpa [Option.bind_eq_some_iff, ih] using and_comm

/-- **Bytes read as a string without a gap just when they are the bytes of the string.**  So no two
sequences of bytes read as one string, and overlong or broken ones leave a gap. -/
theorem whole?_decode_eq_some_iff {bytes : List UInt8} {s : String} :
    whole? (decode bytes) = some s.toList ↔ encode s = bytes := by
  rw [whole?_eq_some_iff]
  constructor
  · exact flatMap_encodeChar_of_decode
  · rintro rfl
    exact decode_encode s

/-! ## The bytes of the standard library -/

/-- The standard library writes a character with the same bytes. -/
theorem encodeChar_eq (c : Char) : encodeChar c = String.utf8EncodeChar c := by
  have scalar : c.toNat < 0xD800 ∨ (0xDFFF < c.toNat ∧ c.toNat < 0x110000) := c.valid
  have number : c.val.toNat = c.toNat := rfl
  simp only [encodeChar, String.utf8EncodeChar, number]
  generalize c.toNat = n at scalar
  rcases Nat.lt_or_ge n 0x80 with one | more
  · rw [if_pos one, if_pos (by omega)]
  rcases Nat.lt_or_ge n 0x800 with two | more
  · have lead : n / 64 % 32 = n / 64 := Nat.mod_eq_of_lt (by omega)
    rw [if_neg (by omega), if_pos two, if_neg (by omega), if_pos (by omega), lead]
    simp only [Nat.add_comm]
  rcases Nat.lt_or_ge n 0x10000 with three | more
  · have lead : n / 4096 % 16 = n / 4096 := Nat.mod_eq_of_lt (by omega)
    rw [if_neg (by omega), if_neg (by omega), if_pos three, if_neg (by omega), if_neg (by omega),
      if_pos (by omega), lead]
    simp only [Nat.add_comm]
  · have lead : n / 262144 % 8 = n / 262144 := Nat.mod_eq_of_lt (by omega)
    rw [if_neg (by omega), if_neg (by omega), if_neg (by omega), if_neg (by omega),
      if_neg (by omega), if_neg (by omega), lead]
    simp only [Nat.add_comm]

theorem toByteArray_encode (s : String) : (encode s).toByteArray = s.toByteArray := by
  rw [encode, ← String.utf8Encode_toList, List.utf8Encode]
  simp only [funext encodeChar_eq]

/-- Some bytes are those of a string just when the standard library says so. -/
theorem encode_eq_iff {bytes : List UInt8} {s : String} :
    encode s = bytes ↔ bytes.toByteArray = s.toByteArray := by
  rw [← toByteArray_encode]
  constructor
  · rintro rfl
    rfl
  · intro same
    have data := congrArg (fun b : ByteArray => b.data.toList) same
    simp only [List.data_toByteArray] at data
    exact data.symm

theorem isValidUTF8_iff {bytes : List UInt8} :
    bytes.toByteArray.IsValidUTF8 ↔ ∃ s : String, bytes.toByteArray = s.toByteArray := by
  constructor
  · rintro ⟨cs, same⟩
    refine ⟨String.ofList cs, ?_⟩
    rw [same, String.toByteArray_ofList]
  · rintro ⟨s, same⟩
    rw [same]
    exact s.isValidUTF8

/-- Bytes have a gap just when they are not valid to the standard library. -/
theorem whole?_decode_eq_none_iff {bytes : List UInt8} :
    whole? (decode bytes) = none ↔ ¬bytes.toByteArray.IsValidUTF8 := by
  rw [isValidUTF8_iff]
  constructor
  · rintro gap ⟨s, same⟩
    rw [← encode_eq_iff, ← whole?_decode_eq_some_iff, gap] at same
    cases same
  · intro invalid
    cases read : whole? (decode bytes) with
    | none => rfl
    | some cs =>
      rw [← String.toList_ofList (l := cs), whole?_decode_eq_some_iff, encode_eq_iff] at read
      exact absurd ⟨_, read⟩ invalid

end DaemonWatch.Text.Utf8
