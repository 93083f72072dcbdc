/-
  Reading the tokens that a text spells.

  This is the converse of `areSpelledBy_of_tokensFrom?`.  What a text spells does not come out of it
  by itself: the digits 12 spell one number, but also two, and only the one is read.

  1. **Numbers** are read part by part.  The digits before the point, those behind it and the
     exponent each lead from one state of the scanner to another (`tokensFrom?_isWhole`,
     `tokensFrom?_isFraction`, `tokensFrom?_isExponent`), whatever comes next.  A number has no end
     of its own; it is complete where the text stops it (`Stops`), and then it is read
     (`tokensFrom?_literal`).

  2. **Strings** have an end of their own and are read whatever follows (`tokensFrom?_pieces`), and
     so are words and marks.

  3. **The crux is which tokens stand apart** (`Apart`): those where no number is followed by a
     token that it could run into.  Behind such a number the text stops it, however the next token
     is spelled and whatever space is between (`Ends.stops`).

  4. **Bridge.**  Tokens that stand apart are read from every text that spells them
     (`tokensFrom?_of_areSpelledBy`), so the two directions meet in `tokens?_eq_some_iff`.
-/
import DaemonWatch.Proofs.JsonSpelling

namespace DaemonWatch.Json

open Text

/-! ## One character at a time -/

/-- What a character completes stands before what follows. -/
theorem tokensFrom?_of_step {mode next : Mode} {c : Option Char} {tokens : List Token}
    (step : mode.step? c = some (tokens, next)) (rest : Gapped) :
    tokensFrom? mode (c :: rest) = (tokensFrom? next rest).map (tokens ++ ·) := by
  rw [tokensFrom?, step]
  cases h : tokensFrom? next rest <;> simp [h]

/-- A character that completes nothing. -/
theorem tokensFrom?_of_silent {mode : Mode} (next : Mode) {c : Option Char}
    (step : mode.step? c = some ([], next)) (rest : Gapped) :
    tokensFrom? mode (c :: rest) = tokensFrom? next rest := by
  rw [tokensFrom?_of_step step]
  simp

/-- A character that completes one token. -/
theorem tokensFrom?_of_token {mode : Mode} (token : Token) {c : Option Char}
    (step : mode.step? c = some ([token], .between)) (rest : Gapped) :
    tokensFrom? mode (c :: rest) = (tokensFrom? .between rest).map (token :: ·) :=
  tokensFrom?_of_step step rest

/-! ## Numbers -/

/-- The characters that may stand behind a number. -/
def stoppers : List Char := [',', ']', '\x7d', ' ', '\t', '\n', '\r']

/-- That a text stops a number: it is empty, or goes on with what may stand behind one.  None of
these characters can be part of a number, and none begins a value. -/
def Stops (rest : Gapped) : Prop := rest = [] ∨ ∃ c more, rest = some c :: more ∧ c ∈ stoppers

theorem stops_of_mem {c : Char} (mem : c ∈ stoppers) (more : Gapped) : Stops (some c :: more) :=
  .inr ⟨c, more, rfl, mem⟩

/-- What stops a number cannot be part of it, and is space or a token by itself. -/
theorem step?_of_stop {c : Char} (mem : c ∈ stoppers) {n : Spelling} (complete : n.complete = true) :
    ∃ tokens, Mode.step? .between (some c) = some (tokens, .between) ∧
      Mode.step? (.number n) (some c) = some (.number n.literal :: tokens, .between) := by
  obtain ⟨noDigit, other, begins⟩ : digit? c = none ∧ c ∉ ['.', 'e', 'E', '+', '-'] ∧
      (Mode.begin? c).map Prod.snd = some .between := by
    simp only [stoppers, List.mem_cons, List.not_mem_nil, or_false] at mem
    rcases mem with rfl | rfl | rfl | rfl | rfl | rfl | rfl <;> decide
  have noMark : n.pushMark? c = none := by
    simp only [List.mem_cons, List.not_mem_nil, or_false, not_or] at other
    cases part : n.part <;> simp [Spelling.pushMark?, part, other]
  obtain ⟨⟨tokens, next⟩, begun, same⟩ := Option.map_eq_some_iff.mp begins
  cases same
  refine ⟨tokens, begun, ?_⟩
  simp [Mode.step?, Mode.inNumber?, noDigit, noMark, complete, begun]

/-- A number ends where the text stops it. -/
theorem tokensFrom?_number {n : Spelling} (complete : n.complete = true) {rest : Gapped}
    (stops : Stops rest) :
    tokensFrom? (.number n) rest = (tokensFrom? .between rest).map (.number n.literal :: ·) := by
  rcases stops with rfl | ⟨c, more, rfl, mem⟩
  · simp [tokensFrom?, Mode.finish?, complete]
  · obtain ⟨tokens, alone, behind⟩ := step?_of_stop mem complete
    rw [tokensFrom?_of_step alone, tokensFrom?_of_step behind, Option.map_map]
    rfl

/-- A digit within a number. -/
theorem tokensFrom?_pushDigit {n m : Spelling} {c : Char} {d : Nat} (digit : digit? c = some d)
    (pushed : n.pushDigit? d = some m) (rest : Gapped) :
    tokensFrom? (.number n) (some c :: rest) = tokensFrom? (.number m) rest :=
  tokensFrom?_of_silent _ (by simp [Mode.step?, Mode.inNumber?, digit, pushed]) rest

/-- A character within a number that is no digit. -/
theorem tokensFrom?_pushMark {n m : Spelling} {c : Char} (noDigit : digit? c = none)
    (pushed : n.pushMark? c = some m) (rest : Gapped) :
    tokensFrom? (.number n) (some c :: rest) = tokensFrom? (.number m) rest :=
  tokensFrom?_of_silent _ (by simp [Mode.step?, Mode.inNumber?, noDigit, pushed]) rest

/-- Digits within a number, where `spelling` says what those so far have led to. -/
theorem tokensFrom?_pushDigits (spelling : List Nat → Spelling)
    (push : ∀ before d, (spelling before).pushDigit? d = some (spelling (before ++ [d])))
    {values : List Nat} {s : List Char} (digits : AreDigits digit? values s) (before : List Nat)
    (rest : Gapped) :
    tokensFrom? (.number (spelling before)) (s.map some ++ rest) =
      tokensFrom? (.number (spelling (before ++ values))) rest := by
  induction digits generalizing before with
  | nil => simp
  | @cons d c values s digit _ ih =>
    rw [List.map_cons, List.cons_append, tokensFrom?_pushDigit digit (push before d), ih]
    simp

/-- A decimal digit is the one that its value is written with. -/
theorem eq_digitChar_of_digit? {c : Char} {d : Nat} (digit : digit? c = some d) :
    d < 10 ∧ c = Nat.digitChar d := by
  unfold digit? at digit
  split_ifs at digit with range
  have low : 48 ≤ c.toNat := (by simpa using range : '0' ≤ c ∧ c ≤ '9').1
  have high : c.toNat ≤ 57 := (by simpa using range : '0' ≤ c ∧ c ≤ '9').2
  have value : d = c.toNat - 48 := (Option.some.inj digit).symm
  have char : c = Char.ofNat (d + 48) := by
    rw [value, Nat.sub_add_cancel low, Char.ofNat_toNat]
  have small : d < 10 := by omega
  refine ⟨small, char.trans ?_⟩
  clear value char digit range low high
  revert d
  decide

theorem digit?_digitChar {d : Nat} (digit : d < 10) : digit? (Nat.digitChar d) = some d := by
  revert d
  decide

theorem step?_digitChar {d : Nat} (digit : d < 10) :
    Mode.between.step? (some (Nat.digitChar d)) = some ([], .number (.first false d)) := by
  revert d
  decide

/-- A digit begins a number. -/
theorem step?_of_digit {c : Char} {d : Nat} (digit : digit? c = some d) :
    Mode.between.step? (some c) = some ([], .number (.first false d)) := by
  obtain ⟨small, rfl⟩ := eq_digitChar_of_digit? digit
  exact step?_digitChar small

/-- The sign of a number and its first digit. -/
theorem tokensFrom?_first_digit (negative : Bool) {c : Char} {d : Nat} (digit : digit? c = some d)
    (rest : Gapped) :
    tokensFrom? .between ((signChars negative ++ [c]).map some ++ rest) =
      tokensFrom? (.number (.first negative d)) rest := by
  cases negative with
  | false => exact tokensFrom?_of_silent _ (step?_of_digit digit) rest
  | true =>
    have sign : Spelling.minus.pushDigit? d = some (.first true d) := rfl
    exact (tokensFrom?_of_silent (.number .minus) rfl _).trans (tokensFrom?_pushDigit digit sign rest)

/-- That nothing has been read of a number but its digits before the point. -/
def IsWholePart (part : Part) : Prop := part = .zero ∨ part = .whole

/-- The digits before the point.  The first of them begins the number, behind the sign if there is
one; if it is zero nothing may come behind it, and then the spelling is at another part. -/
theorem tokensFrom?_isWhole (negative : Bool) {whole : List Nat} {w : List Char}
    (isWhole : IsWhole whole w) :
    ∃ part, IsWholePart part ∧ ∀ rest,
      tokensFrom? .between ((signChars negative ++ w).map some ++ rest) =
        tokensFrom? (.number ⟨part, negative, whole.reverse, [], false, 0⟩) rest := by
  obtain ⟨digits, notNil, noZero⟩ := isWhole
  cases digits with
  | nil => exact absurd rfl notNil
  | @cons d c values s digit digits =>
    by_cases zero : d = 0
    · -- Nothing comes behind a zero.
      have alone : values = [] := by
        have single := noZero (by rw [List.head?_cons, zero])
        exact (List.cons.inj single).2
      subst zero alone
      cases digits
      exact ⟨.zero, .inl rfl, tokensFrom?_first_digit negative digit⟩
    · refine ⟨.whole, .inr rfl, fun rest => ?_⟩
      have first : Spelling.first negative d = ⟨.whole, negative, [d].reverse, [], false, 0⟩ := by
        rw [Spelling.first, if_neg zero]
        rfl
      have split : (signChars negative ++ c :: s).map some ++ rest =
          (signChars negative ++ [c]).map some ++ (s.map some ++ rest) := by simp
      have more := tokensFrom?_pushDigits
        (fun read => ⟨.whole, negative, read.reverse, [], false, 0⟩)
        (fun before e => by simp [Spelling.pushDigit?]) digits [d] rest
      rw [split, tokensFrom?_first_digit negative digit, first, more]
      rfl

/-- The point and the digits behind it. -/
theorem tokensFrom?_isFraction {part : Part} (isWholePart : IsWholePart part) (negative : Bool)
    (whole : List Nat) {fraction : List Nat} {f : List Char} (isFraction : IsFraction fraction f) :
    ∃ part', (IsWholePart part' ∨ part' = .fraction) ∧ ∀ rest,
      tokensFrom? (.number ⟨part, negative, whole, [], false, 0⟩) (f.map some ++ rest) =
        tokensFrom? (.number ⟨part', negative, whole, fraction.reverse, false, 0⟩) rest := by
  cases isFraction with
  | none => exact ⟨part, .inl isWholePart, fun rest => rfl⟩
  | some digits notNil =>
    cases digits with
    | nil => exact absurd rfl notNil
    | @cons d c values s digit digits =>
      refine ⟨.fraction, .inr rfl, fun rest => ?_⟩
      have point : (⟨part, negative, whole, [], false, 0⟩ : Spelling).pushMark? '.' =
          some ⟨.point, negative, whole, [], false, 0⟩ := by
        rcases isWholePart with rfl | rfl <;> rfl
      have more := tokensFrom?_pushDigits
        (fun read => ⟨.fraction, negative, whole, read.reverse, false, 0⟩)
        (fun before e => by simp [Spelling.pushDigit?]) digits [d] rest
      simp only [List.map_cons, List.cons_append]
      rw [tokensFrom?_pushMark (by decide) point, tokensFrom?_pushDigit digit rfl]
      exact more

/-- The exponent, or that there is none.  It begins with a letter; the sign may be missing, and then
the first digit stands right behind the letter.  What is read may end here in any case. -/
theorem tokensFrom?_isExponent {part : Part} (isPart : IsWholePart part ∨ part = .fraction)
    (negative : Bool) (whole fraction : List Nat) {exponent : Option Int} {e : List Char}
    (isExponent : IsExponent exponent e) :
    ∃ n : Spelling, n.complete = true ∧
      n.literal = ⟨negative, whole.reverse, fraction.reverse, exponent⟩ ∧ ∀ rest,
        tokensFrom? (.number ⟨part, negative, whole, fraction, false, 0⟩) (e.map some ++ rest) =
          tokensFrom? (.number n) rest := by
  cases isExponent with
  | none =>
    refine ⟨⟨part, negative, whole, fraction, false, 0⟩, ?_, ?_, fun rest => rfl⟩
    · rcases isPart with (rfl | rfl) | rfl <;> rfl
    · rcases isPart with (rfl | rfl) | rfl <;> rfl
  | @some mark minus sign values s isMark isSign digits notNil =>
    cases digits with
    | nil => exact absurd rfl notNil
    | @cons d c values s digit digits =>
      refine ⟨⟨.exponent, negative, whole, fraction, minus, numeral 10 (d :: values)⟩, rfl, rfl,
        fun rest => ?_⟩
      have noDigit : digit? mark = none := by rcases isMark with rfl | rfl <;> rfl
      have begun : (⟨part, negative, whole, fraction, false, 0⟩ : Spelling).pushMark? mark =
          some ⟨.mark, negative, whole, fraction, false, 0⟩ := by
        rcases isPart with (rfl | rfl) | rfl <;> rcases isMark with rfl | rfl <;> rfl
      have more := tokensFrom?_pushDigits
        (fun read => ⟨.exponent, negative, whole, fraction, minus, numeral 10 read⟩)
        (fun before e => by simp [Spelling.pushDigit?, numeral_concat]) digits [d] rest
      simp only [List.map_cons, List.map_append, List.cons_append, List.append_assoc]
      rw [tokensFrom?_pushMark noDigit begun]
      -- Without a sign the first digit stands right behind the letter.
      cases isSign with
      | none =>
        rw [List.map_nil, List.nil_append, tokensFrom?_pushDigit digit rfl]
        exact more
      | plus | minus =>
        rw [List.map_singleton, List.singleton_append, tokensFrom?_pushMark (by decide) rfl,
          tokensFrom?_pushDigit digit rfl]
        exact more

/-- A number is read where what follows stops it. -/
theorem tokensFrom?_literal {l : Literal} {s : List Char} (spelled : l.IsSpelledBy s)
    {rest : Gapped} (stops : Stops rest) :
    tokensFrom? .between (s.map some ++ rest) =
      (tokensFrom? .between rest).map (.number l :: ·) := by
  cases spelled with
  | @parts negative whole fraction exponent w f e isWhole isFraction isExponent =>
    obtain ⟨part, isWholePart, digits⟩ := tokensFrom?_isWhole negative isWhole
    obtain ⟨part', isPart, point⟩ :=
      tokensFrom?_isFraction isWholePart negative whole.reverse isFraction
    obtain ⟨n, complete, literal, power⟩ :=
      tokensFrom?_isExponent isPart negative whole.reverse fraction.reverse isExponent
    rw [List.reverse_reverse, List.reverse_reverse] at literal
    rw [List.map_append, List.append_assoc, List.map_append, List.append_assoc, digits, point,
      power, tokensFrom?_number complete stops, literal]

/-! ## Strings -/

/-- Pieces of a string and the quotation mark behind them are read.  It is an induction over the
pieces: each leads from the text before it to the text with it, whatever its spelling, and the
quotation mark completes the token. -/
theorem tokensFrom?_pieces {ps : List Piece} {s : Gapped} (spelled : Piece.AreSpelledBy ps s)
    (done : List Piece) (rest : Gapped) :
    tokensFrom? (.text done) (s ++ some '"' :: rest) =
      (tokensFrom? .between rest).map (.text (done.reverse ++ ps) :: ·) := by
  induction spelled generalizing done with
  | nil =>
    rw [List.append_nil]
    exact tokensFrom?_of_token (.text done.reverse) rfl rest
  | @cons p ps r s first _ ih =>
    -- One piece leads from the text before it to the text with it.
    have piece : tokensFrom? (.text done) (r ++ (s ++ some '"' :: rest)) =
        tokensFrom? (.text (p :: done)) (s ++ some '"' :: rest) := by
      cases first with
      | plain noQuote noSlash noControl =>
        exact tokensFrom?_of_silent _
          (by simp [Mode.step?, Mode.inText?, noQuote, noSlash, Nat.not_lt.mpr noControl]) _
      | gap => exact tokensFrom?_of_silent _ rfl _
      | @letter letter c stands =>
        have noUnit : letter ≠ 'u' := by
          rintro rfl
          cases stands
        exact (tokensFrom?_of_silent (.escape done) rfl _).trans
          (tokensFrom?_of_silent _ (by simp [Mode.step?, noUnit, stands]) _)
      | @unit values h digits four =>
        obtain ⟨a, b, c, d, rfl⟩ : ∃ a b c d, h = [a, b, c, d] := List.length_eq_four.mp four
        obtain _ | ⟨da, _ | ⟨db, _ | ⟨dc, _ | ⟨dd, _ | _⟩⟩⟩⟩ := digits
        simp only [List.map_cons, List.map_nil, List.cons_append, List.nil_append]
        rw [tokensFrom?_of_silent (.escape done) rfl,
          tokensFrom?_of_silent (.unit done 4 0) rfl,
          tokensFrom?_of_silent _ (by rw [Mode.step?, da]; rfl),
          tokensFrom?_of_silent _ (by rw [Mode.step?, db]; rfl),
          tokensFrom?_of_silent _ (by rw [Mode.step?, dc]; rfl),
          tokensFrom?_of_silent _ (by rw [Mode.step?, dd]; rfl)]
        rfl
    rw [List.append_assoc, piece, ih]
    simp

/-! ## Tokens that stand apart -/

/-- That tokens do not go on with a value: behind a value comes a comma or the end of an array or
object, or nothing. -/
def Ends (ts : List Token) : Prop :=
  ∀ t ∈ ts.head?, t ∈ [Token.comma, .closeArray, .closeObject]

/-- That no number stands before a token that it could run into.  Strings, words and marks have ends
of their own, and nothing is asked of what follows them. -/
inductive Apart : List Token → Prop
  | nil : Apart []
  | number {l : Literal} {ts : List Token} (ends : Ends ts) (rest : Apart ts) :
      Apart (.number l :: ts)
  | other {t : Token} {ts : List Token} (noNumber : ∀ l, t ≠ .number l) (rest : Apart ts) :
      Apart (t :: ts)

/-- Behind a number that stands apart, no value goes on. -/
theorem Apart.ends {l : Literal} {ts : List Token} (apart : Apart (.number l :: ts)) : Ends ts := by
  cases apart with
  | number ends rest => exact ends
  | other noNumber rest => exact absurd rfl (noNumber l)

theorem Apart.rest {t : Token} {ts : List Token} (apart : Apart (t :: ts)) : Apart ts := by
  cases apart with
  | number ends rest => exact rest
  | other noNumber rest => exact rest

/-- Behind tokens that do not go on with a value, a number is stopped. -/
theorem Ends.stops {ts : List Token} {s : Gapped} (ends : Ends ts)
    (spelled : Token.AreSpelledBy ts s) : Stops s := by
  cases spelled with
  | nil => exact .inl rfl
  | space isSpace rest =>
    refine stops_of_mem ?_ _
    simp only [Json.isSpace, Bool.or_eq_true, decide_eq_true_eq] at isSpace
    rcases isSpace with ((rfl | rfl) | rfl) | rfl <;> decide
  | @token t ts r s first rest =>
    have close := ends t rfl
    cases first with
    | @mark c t mem =>
      have stop : ∀ m ∈ marks, m.2 ∈ [Token.comma, .closeArray, .closeObject] → m.1 ∈ stoppers := by
        decide
      exact stops_of_mem (stop _ mem close) _
    | @word w t mem =>
      have other : ∀ w ∈ words, w.2 ∉ [Token.comma, .closeArray, .closeObject] := by decide
      exact absurd close (other _ mem)
    | number => simp at close
    | text => simp at close

/-- A character that is a token by itself is read. -/
theorem tokensFrom?_mark {c : Char} {t : Token} (mem : (c, t) ∈ marks) (rest : Gapped) :
    tokensFrom? .between (some c :: rest) = (tokensFrom? .between rest).map (t :: ·) := by
  have step : ∀ m ∈ marks, Mode.between.step? (some m.1) = some ([m.2], .between) := by decide
  exact tokensFrom?_of_token t (step _ mem) rest

/-- A word is read letter by letter. -/
theorem tokensFrom?_word (o : Char) (owed : List Char) (token : Token) (rest : Gapped) :
    tokensFrom? (.word (o :: owed) token) ((o :: owed).map some ++ rest) =
      (tokensFrom? .between rest).map (token :: ·) := by
  induction owed generalizing o with
  | nil => exact tokensFrom?_of_token token (by simp [Mode.step?]) rest
  | cons p owed ih =>
    have step : (Mode.word (o :: p :: owed) token).step? (some o) =
        some ([], .word (p :: owed) token) := by simp [Mode.step?]
    rw [List.map_cons, List.cons_append, tokensFrom?_of_silent _ step]
    exact ih p

/-- A word is read. -/
theorem tokensFrom?_words {w : String} {t : Token} (mem : (w, t) ∈ words) (rest : Gapped) :
    tokensFrom? .between (gapped w ++ rest) = (tokensFrom? .between rest).map (t :: ·) := by
  simp only [words, List.mem_cons, Prod.mk.injEq, List.not_mem_nil, or_false] at mem
  obtain ⟨rfl, rfl⟩ | ⟨rfl, rfl⟩ | ⟨rfl, rfl⟩ := mem
  · exact (tokensFrom?_of_silent _ rfl _).trans (tokensFrom?_word 'u' ['l', 'l'] .null rest)
  · exact (tokensFrom?_of_silent _ rfl _).trans (tokensFrom?_word 'r' ['u', 'e'] (.bool true) rest)
  · exact (tokensFrom?_of_silent _ rfl _).trans
      (tokensFrom?_word 'a' ['l', 's', 'e'] (.bool false) rest)

/-- **Tokens that stand apart are read from any text that spells them.**  It is an induction over
how they are spelled: space is skipped, and each token is read by the lemma for its sort. -/
theorem tokensFrom?_of_areSpelledBy {ts : List Token} {s : Gapped}
    (spelled : Token.AreSpelledBy ts s) (apart : Apart ts) :
    tokensFrom? .between s = some ts := by
  induction spelled with
  | nil => rfl
  | space isSpace _ ih =>
    rw [tokensFrom?_of_silent .between (by simp [Mode.step?, Mode.begin?, isSpace]), ih apart]
  | @token t ts r s first rest ih =>
    -- Whatever the token is, it is read in front of the others.
    suffices read : tokensFrom? .between (r ++ s) = (tokensFrom? .between s).map (t :: ·) by
      rw [read, ih apart.rest, Option.map_some]
    cases first with
    | mark mem => exact tokensFrom?_mark mem s
    | word mem => exact tokensFrom?_words mem s
    | number spelled => exact tokensFrom?_literal spelled (apart.ends.stops rest)
    | text spelled =>
      rw [List.cons_append, List.append_assoc, tokensFrom?_of_silent (.text []) rfl]
      exact tokensFrom?_pieces spelled [] s

/-- **The tokens of a text are those that it spells**, if they stand apart. -/
theorem tokens?_eq_some_iff {ts : List Token} {s : Gapped} (apart : Apart ts) :
    tokens? s = some ts ↔ Token.AreSpelledBy ts s :=
  ⟨areSpelledBy_of_tokensFrom? .between, fun spelled => tokensFrom?_of_areSpelledBy spelled apart⟩

end DaemonWatch.Json
