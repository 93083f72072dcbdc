/-
  How the tokens of JSON are spelled, and that what is read as tokens is so spelled.

  1. **Specification** (`Token.AreSpelledBy`): which texts spell which tokens.  The tokens stand in
     order, each in one of its spellings, and all else is space.  A number has digits, of which the
     first is zero only when it is the only one before the point (`Literal.IsSpelledBy`).  A string
     has pieces, each of them a character by itself, a letter behind a backslash, or four
     hexadecimal digits (`Piece.AreSpelledBy`).  None of this mentions the scanner.

  2. **Account of what has been read.**  The scanner reads one character at a time and keeps a mode.
     `Mode.HasRead` says what the characters of the token that is being read can have been, one case
     for each mode, and `Spelling.HasRead` does so within a number, one case for each part that the
     number can have come to.

  3. **The crux (`Mode.HasRead.step`)**: a step keeps that account.  It may complete tokens on the
     way, and what they were spelled by is then behind it (`Completes`); a character that ends a
     number is the only one that completes a token and does not belong to it.

  4. **Result** (`areSpelledBy_of_tokensFrom?`), by induction over the text, from any mode.  The
     other direction, that what is spelled is read, needs numbers to stand apart from what follows
     them.
-/
import DaemonWatch.Json.Token
import Mathlib.Data.List.Forall2
import Mathlib.Tactic.SplitIfs

namespace DaemonWatch.Json

open Text

/-! ## Digits -/

/-- Characters that are the digits of the values given, as `digit?` reads them. -/
def AreDigits (digit? : Char → Option Nat) (values : List Nat) (s : List Char) : Prop :=
  List.Forall₂ (fun d c => digit? c = some d) values s

/-- The number that digits have the values of, in a base. -/
def numeral (base : Nat) (values : List Nat) : Nat :=
  values.foldl (fun n d => n * base + d) 0

theorem AreDigits.concat {digit? : Char → Option Nat} {values : List Nat} {s : List Char}
    {d : Nat} {c : Char} (digits : AreDigits digit? values s) (digit : digit? c = some d) :
    AreDigits digit? (values ++ [d]) (s ++ [c]) :=
  List.rel_append digits (.cons digit .nil)

theorem numeral_concat (base : Nat) (values : List Nat) (d : Nat) :
    numeral base (values ++ [d]) = numeral base values * base + d := by
  rw [numeral, List.foldl_append]
  rfl

/-! ## Numbers -/

/-- The digits before the point; a zero comes first only when it is the only one. -/
structure IsWhole (values : List Nat) (s : List Char) : Prop where
  digits : AreDigits digit? values s
  notNil : values ≠ []
  noZero : values.head? = some 0 → values = [0]

/-- The point and the digits behind it, if there is one. -/
inductive IsFraction : List Nat → List Char → Prop
  | none : IsFraction [] []
  | some {values : List Nat} {s : List Char} (digits : AreDigits digit? values s)
      (notNil : values ≠ []) : IsFraction values ('.' :: s)

/-- The sign of an exponent, and whether it is a minus. -/
inductive IsSign : Bool → List Char → Prop
  | none : IsSign false []
  | plus : IsSign false ['+']
  | minus : IsSign true ['-']

/-- The letter that an exponent begins with. -/
def IsMark (c : Char) : Prop := c = 'e' ∨ c = 'E'

/-- An exponent, if there is one. -/
inductive IsExponent : Option Int → List Char → Prop
  | none : IsExponent none []
  | some {mark : Char} {negative : Bool} {sign : List Char} {values : List Nat} {s : List Char}
      (isMark : IsMark mark) (isSign : IsSign negative sign) (digits : AreDigits digit? values s)
      (notNil : values ≠ []) :
      IsExponent
        (some (if negative then -(numeral 10 values : Int) else numeral 10 values))
        (mark :: (sign ++ s))

/-- The sign of a number. -/
def signChars (negative : Bool) : List Char := if negative then ['-'] else []

/-- How a number is spelled: a minus sign if it is negative, the digits before the point, the point
and the digits behind it if there are any, and the exponent if there is one. -/
inductive Literal.IsSpelledBy : Literal → List Char → Prop
  | parts {negative : Bool} {whole fraction : List Nat} {exponent : Option Int}
      {w f e : List Char} (isWhole : IsWhole whole w) (isFraction : IsFraction fraction f)
      (isExponent : IsExponent exponent e) :
      IsSpelledBy ⟨negative, whole, fraction, exponent⟩ (signChars negative ++ w ++ f ++ e)

/-! ## Strings -/

/-- How an element of a string is spelled.  Many characters can be spelled in more than one way; an
undecodable byte stands for itself and is a gap. -/
inductive Piece.IsSpelledBy : Piece → Gapped → Prop
  | plain {c : Char} (noQuote : c ≠ '"') (noSlash : c ≠ '\\') (noControl : 0x20 ≤ c.toNat) :
      IsSpelledBy (.char c) [some c]
  | gap : IsSpelledBy .gap [none]
  | letter {letter c : Char} (stands : unescape? letter = some c) :
      IsSpelledBy (.char c) [some '\\', some letter]
  | unit {values : List Nat} {s : List Char} (digits : AreDigits hexDigit? values s)
      (four : s.length = 4) :
      IsSpelledBy (.ofUnit (numeral 16 values)) (some '\\' :: some 'u' :: s.map some)

/-- How the elements of a string are spelled, one after the other. -/
inductive Piece.AreSpelledBy : List Piece → Gapped → Prop
  | nil : AreSpelledBy [] []
  | cons {p : Piece} {ps : List Piece} {r s : Gapped} (first : p.IsSpelledBy r)
      (rest : AreSpelledBy ps s) : AreSpelledBy (p :: ps) (r ++ s)

/-- One more element behind others. -/
theorem Piece.AreSpelledBy.concat {ps : List Piece} {p : Piece} {r s : Gapped}
    (spelled : AreSpelledBy ps s) (last : p.IsSpelledBy r) :
    AreSpelledBy (ps ++ [p]) (s ++ r) := by
  induction spelled with
  | nil =>
    have single := AreSpelledBy.cons last .nil
    rwa [List.append_nil] at single
  | cons first rest ih =>
    rw [List.append_assoc]
    exact .cons first ih

/-! ## Tokens -/

/-- The tokens of one character. -/
def marks : List (Char × Token) :=
  [('[', .openArray), (']', .closeArray), ('\x7b', .openObject), ('\x7d', .closeObject),
   (',', .comma), (':', .colon)]

/-- The tokens that are words. -/
def words : List (String × Token) :=
  [("null", .null), ("true", .bool true), ("false", .bool false)]

/-- How a token is spelled: marks and words in one way, numbers and strings in many. -/
inductive Token.IsSpelledBy : Token → Gapped → Prop
  | mark {c : Char} {t : Token} (mem : (c, t) ∈ marks) : IsSpelledBy t [some c]
  | word {w : String} {t : Token} (mem : (w, t) ∈ words) : IsSpelledBy t (gapped w)
  | number {l : Literal} {s : List Char} (spelled : l.IsSpelledBy s) :
      IsSpelledBy (.number l) (s.map some)
  | text {ps : List Piece} {s : Gapped} (spelled : Piece.AreSpelledBy ps s) :
      IsSpelledBy (.text ps) (some '"' :: (s ++ [some '"']))

/-- How tokens are spelled: each in its place, with any space around it. -/
inductive Token.AreSpelledBy : List Token → Gapped → Prop
  | nil : AreSpelledBy [] []
  | space {c : Char} {ts : List Token} {s : Gapped} (isSpace : isSpace c = true)
      (rest : AreSpelledBy ts s) : AreSpelledBy ts (some c :: s)
  | token {t : Token} {ts : List Token} {r s : Gapped} (first : t.IsSpelledBy r)
      (rest : AreSpelledBy ts s) : AreSpelledBy (t :: ts) (r ++ s)

/-- One token by itself. -/
theorem Token.AreSpelledBy.single {t : Token} {s : Gapped} (spelled : t.IsSpelledBy s) :
    AreSpelledBy [t] s := by
  have alone := AreSpelledBy.token spelled .nil
  rwa [List.append_nil] at alone

/-- Tokens behind others. -/
theorem Token.AreSpelledBy.append {ts us : List Token} {r s : Gapped} (first : AreSpelledBy ts r)
    (second : AreSpelledBy us s) : AreSpelledBy (ts ++ us) (r ++ s) := by
  induction first with
  | nil => exact second
  | space isSpace _ ih => exact .space isSpace ih
  | token first _ ih =>
    rw [List.append_assoc]
    exact .token first ih

/-! ## What has been read of a number -/

/-- The spelling that the first digit of a number begins. -/
def Spelling.first (negative : Bool) (d : Nat) : Spelling :=
  ⟨if d = 0 then .zero else .whole, negative, [d], [], false, 0⟩

/-- The characters that have led to a spelling, one case for each part that it can have come to. -/
inductive Spelling.HasRead : Spelling → List Char → Prop
  | sign : HasRead .minus ['-']
  | zero {negative : Bool} {s : List Char} (isWhole : IsWhole [0] s) :
      HasRead ⟨.zero, negative, [0], [], false, 0⟩ (signChars negative ++ s)
  | whole {negative : Bool} {whole : List Nat} {w : List Char} (isWhole : IsWhole whole.reverse w)
      (noZero : whole.reverse.head? ≠ some 0) :
      HasRead ⟨.whole, negative, whole, [], false, 0⟩ (signChars negative ++ w)
  | point {negative : Bool} {whole : List Nat} {w : List Char}
      (isWhole : IsWhole whole.reverse w) :
      HasRead ⟨.point, negative, whole, [], false, 0⟩ (signChars negative ++ w ++ ['.'])
  | fraction {negative : Bool} {whole fraction : List Nat} {w f : List Char}
      (isWhole : IsWhole whole.reverse w) (digits : AreDigits digit? fraction.reverse f)
      (notNil : fraction ≠ []) :
      HasRead ⟨.fraction, negative, whole, fraction, false, 0⟩
        (signChars negative ++ w ++ '.' :: f)
  | mark {negative : Bool} {whole fraction : List Nat} {w f : List Char} {mark : Char}
      (isWhole : IsWhole whole.reverse w) (isFraction : IsFraction fraction.reverse f)
      (isMark : IsMark mark) :
      HasRead ⟨.mark, negative, whole, fraction, false, 0⟩ (signChars negative ++ w ++ f ++ [mark])
  | markSign {negative minus : Bool} {whole fraction : List Nat} {w f sign : List Char}
      {mark : Char} (isWhole : IsWhole whole.reverse w) (isFraction : IsFraction fraction.reverse f)
      (isMark : IsMark mark) (isSign : IsSign minus sign) :
      HasRead ⟨.markSign, negative, whole, fraction, minus, 0⟩
        (signChars negative ++ w ++ f ++ mark :: sign)
  | exponent {negative minus : Bool} {whole fraction values : List Nat} {w f sign s : List Char}
      {mark : Char} (isWhole : IsWhole whole.reverse w) (isFraction : IsFraction fraction.reverse f)
      (isMark : IsMark mark) (isSign : IsSign minus sign) (digits : AreDigits digit? values s)
      (notNil : values ≠ []) :
      HasRead ⟨.exponent, negative, whole, fraction, minus, numeral 10 values⟩
        (signChars negative ++ w ++ f ++ mark :: (sign ++ s))

/-- The first digit of a number. -/
theorem IsWhole.single {c : Char} {d : Nat} (digit : digit? c = some d) : IsWhole [d] [c] where
  digits := .cons digit .nil
  notNil := List.cons_ne_nil _ _
  noZero := by
    intro zero
    rw [List.head?_cons, Option.some.injEq] at zero
    rw [zero]

namespace Spelling.HasRead

/-- The first digit, behind the sign if there is one. -/
theorem first {c : Char} {d : Nat} (digit : digit? c = some d) (negative : Bool) :
    HasRead (.first negative d) (signChars negative ++ [c]) := by
  by_cases zero : d = 0
  · subst zero
    exact .zero (.single digit)
  · have part : Spelling.first negative d = ⟨.whole, negative, [d], [], false, 0⟩ := by
      rw [Spelling.first, if_neg zero]
    rw [part]
    refine .whole (.single digit) ?_
    simpa using zero

/-- One more digit.  The part that the number has come to says where the digit belongs; behind a
zero there can be none. -/
theorem pushDigit {n m : Spelling} {s : List Char} {c : Char} {d : Nat} (read : n.HasRead s)
    (digit : digit? c = some d) (step : n.pushDigit? d = some m) : m.HasRead (s ++ [c]) := by
  cases read with
  | sign =>
    cases step
    exact first digit true
  | zero => cases step
  | whole isWhole noZero =>
    cases step
    rw [List.append_assoc]
    refine .whole ⟨?_, ?_, ?_⟩ ?_
    · rw [List.reverse_cons]
      exact isWhole.digits.concat digit
    · simp
    · intro zero
      rw [List.reverse_cons, List.head?_append_of_ne_nil _ isWhole.notNil] at zero
      exact absurd zero noZero
    · rwa [List.reverse_cons, List.head?_append_of_ne_nil _ isWhole.notNil]
  | point isWhole =>
    cases step
    rw [List.append_assoc]
    exact .fraction isWhole (.cons digit .nil) (List.cons_ne_nil _ _)
  | fraction isWhole digits notNil =>
    cases step
    rw [List.append_assoc, List.cons_append]
    refine .fraction isWhole ?_ (List.cons_ne_nil _ _)
    rw [List.reverse_cons]
    exact digits.concat digit
  | mark isWhole isFraction isMark =>
    cases step
    rw [List.append_assoc]
    exact .exponent isWhole isFraction isMark .none (.cons digit .nil) (List.cons_ne_nil _ _)
  | markSign isWhole isFraction isMark isSign =>
    cases step
    rw [List.append_assoc, List.cons_append]
    exact .exponent isWhole isFraction isMark isSign (.cons digit .nil) (List.cons_ne_nil _ _)
  | @exponent _ _ _ _ _ _ _ sign t _ isWhole isFraction isMark isSign digits notNil =>
    cases step
    rw [List.append_assoc, List.cons_append, List.append_assoc sign t, ← numeral_concat]
    exact .exponent isWhole isFraction isMark isSign (digits.concat digit) (by simp)

/-- One more character that is no digit: a point, the letter of an exponent, or its sign.  A letter
can stand behind the digits before the point and behind those of a fraction, so that case is shown
once. -/
theorem pushMark {n m : Spelling} {s : List Char} {c : Char} (read : n.HasRead s)
    (step : n.pushMark? c = some m) : m.HasRead (s ++ [c]) := by
  -- A letter begins an exponent behind the digits before the point, with no fraction, or behind one.
  have letter : ∀ (whole fraction : List Nat) {negative : Bool} {w f : List Char},
      IsWhole whole.reverse w → IsFraction fraction.reverse f → (c = 'e' || c = 'E') = true →
      HasRead ⟨.mark, negative, whole, fraction, false, 0⟩
        (signChars negative ++ w ++ f ++ [c]) := by
    intro whole fraction negative w f isWhole isFraction isMark
    exact .mark isWhole isFraction (by simpa [IsMark] using isMark)
  cases read with
  | sign => cases step
  | zero isWhole =>
    simp only [Spelling.pushMark?] at step
    split_ifs at step with point mark
    · cases step
      rw [point]
      exact .point isWhole
    · cases step
      simpa using letter [0] [] isWhole .none mark
  | whole isWhole noZero =>
    simp only [Spelling.pushMark?] at step
    split_ifs at step with point mark
    · cases step
      rw [point]
      exact .point isWhole
    · cases step
      simpa using letter _ [] isWhole .none mark
  | point => cases step
  | fraction isWhole digits notNil =>
    simp only [Spelling.pushMark?] at step
    split_ifs at step with mark
    cases step
    exact letter _ _ isWhole (.some digits (by simpa using notNil)) mark
  | mark isWhole isFraction isMark =>
    simp only [Spelling.pushMark?] at step
    split_ifs at step with plus minus
    · cases step
      rw [plus, List.append_assoc]
      exact .markSign isWhole isFraction isMark .plus
    · cases step
      rw [minus, List.append_assoc]
      exact .markSign isWhole isFraction isMark .minus
  | markSign => cases step
  | exponent => cases step

/-- A spelling that may end here has read a literal. -/
theorem literal {n : Spelling} {s : List Char} (read : n.HasRead s) (complete : n.complete = true) :
    n.literal.IsSpelledBy s := by
  cases read with
  | sign | point | mark | markSign => cases complete
  | @zero negative s isWhole =>
    have spelled := @Literal.IsSpelledBy.parts negative _ _ _ _ _ _ isWhole .none .none
    rwa [List.append_nil, List.append_nil] at spelled
  | @whole negative whole w isWhole noZero =>
    have spelled := @Literal.IsSpelledBy.parts negative _ _ _ _ _ _ isWhole .none .none
    rwa [List.append_nil, List.append_nil] at spelled
  | @fraction negative whole fraction w f isWhole digits notNil =>
    have isFraction : IsFraction fraction.reverse ('.' :: f) := .some digits (by simpa using notNil)
    have spelled := @Literal.IsSpelledBy.parts negative _ _ _ _ _ _ isWhole isFraction .none
    rwa [List.append_nil] at spelled
  | exponent isWhole isFraction isMark isSign digits notNil =>
    exact .parts isWhole isFraction (.some isMark isSign digits notNil)

end Spelling.HasRead

/-! ## What has been read of a token -/

/-- The characters that have led to a mode since the last token.  For a word it is said what they
will be once the rest has come; for a string, which pieces they have spelled so far; for an escape,
how many of its four digits are still to come. -/
inductive Mode.HasRead : Mode → Gapped → Prop
  | between : HasRead .between []
  | word {owed : List Char} {t : Token} {s : Gapped}
      (spelled : t.IsSpelledBy (s ++ owed.map some)) : HasRead (.word owed t) s
  | number {n : Spelling} {s : List Char} (read : n.HasRead s) : HasRead (.number n) (s.map some)
  | text {done : List Piece} {s : Gapped} (read : Piece.AreSpelledBy done.reverse s) :
      HasRead (.text done) (some '"' :: s)
  | escape {done : List Piece} {s : Gapped} (read : Piece.AreSpelledBy done.reverse s) :
      HasRead (.escape done) (some '"' :: (s ++ [some '\\']))
  | unit {done : List Piece} {s : Gapped} {owed : Nat} {values : List Nat} {h : List Char}
      (read : Piece.AreSpelledBy done.reverse s) (digits : AreDigits hexDigit? values h)
      (positive : 0 < owed) (four : h.length + owed = 4) :
      HasRead (.unit done owed (numeral 16 values))
        (some '"' :: (s ++ some '\\' :: some 'u' :: h.map some))

/-- What stands between two steps of the scanner: `tokens` are complete, and what has been read
before the step and by it is spelled if what has been read since and what comes is. -/
def Completes (read : Gapped) (tokens : List Token) (read' : Gapped) : Prop :=
  ∀ ts s, Token.AreSpelledBy ts (read' ++ s) → Token.AreSpelledBy (tokens ++ ts) (read ++ s)

/-- A step that completes nothing goes on with what has been read. -/
theorem Completes.nothing (read : Gapped) : Completes read [] read := fun _ _ spelled => spelled

/-- A step that completes a token begins anew. -/
theorem Completes.token {t : Token} {read : Gapped} (spelled : t.IsSpelledBy read) :
    Completes read [t] [] := fun _ _ rest => .token spelled rest

namespace Mode

/-- What a character between tokens completes and begins.  Space does neither, a mark is complete at
once, and any other character begins a string, a word or a number. -/
theorem hasRead_of_begin? {c : Char} {tokens : List Token} {next : Mode}
    (step : begin? c = some (tokens, next)) :
    ∃ read, next.HasRead read ∧ Completes [some c] tokens read := by
  unfold begin? at step
  split_ifs at step with space
  · cases step
    exact ⟨[], .between, fun ts s rest => .space space rest⟩
  · split at step
    case h_7 =>
      cases step
      exact ⟨_, .text .nil, .nothing _⟩
    case h_8 =>
      cases step
      exact ⟨_, .word (.word (w := "null") (by decide)), .nothing _⟩
    case h_9 =>
      cases step
      exact ⟨_, .word (.word (w := "true") (by decide)), .nothing _⟩
    case h_10 =>
      cases step
      exact ⟨_, .word (.word (w := "false") (by decide)), .nothing _⟩
    case h_11 =>
      cases step
      exact ⟨_, .number .sign, .nothing _⟩
    case h_12 =>
      obtain ⟨d, digit, same⟩ := Option.map_eq_some_iff.mp step
      cases same
      exact ⟨_, .number (.first digit false), .nothing _⟩
    all_goals
      cases step
      exact ⟨[], .between, .token (.mark (by decide))⟩

/-- A character within a string is a piece of it, begins an escape, or ends it. -/
theorem HasRead.inText {done : List Piece} {s : Gapped} {c : Char} {tokens : List Token}
    {next : Mode} (read : Piece.AreSpelledBy done.reverse s)
    (step : inText? done c = some (tokens, next)) :
    ∃ read', next.HasRead read' ∧ Completes (some '"' :: (s ++ [some c])) tokens read' := by
  unfold inText? at step
  split_ifs at step with quote slash control
  · cases step
    rw [quote]
    exact ⟨[], .between, .token (.text read)⟩
  · cases step
    rw [slash]
    exact ⟨_, .escape read, .nothing _⟩
  · cases step
    refine ⟨_, .text ?_, .nothing _⟩
    rw [List.reverse_cons]
    exact read.concat (.plain quote slash (Nat.not_lt.mp control))

/-- A character within a number makes it longer, or ends it and stands between tokens.  In the
second case what it begins or completes is known from there (`hasRead_of_begin?`), with the number
in front. -/
theorem HasRead.inNumber {n : Spelling} {s : List Char} {c : Char} {tokens : List Token}
    {next : Mode} (read : n.HasRead s) (step : inNumber? n c = some (tokens, next)) :
    ∃ read', next.HasRead read' ∧ Completes (s.map some ++ [some c]) tokens read' := by
  have longer : s.map some ++ [some c] = (s ++ [c]).map some := by simp
  unfold inNumber? at step
  split at step
  next d digit =>
    obtain ⟨m, pushed, same⟩ := Option.map_eq_some_iff.mp step
    cases same
    rw [longer]
    exact ⟨_, .number (read.pushDigit digit pushed), .nothing _⟩
  next =>
    split at step
    next m pushed =>
      cases step
      rw [longer]
      exact ⟨_, .number (read.pushMark pushed), .nothing _⟩
    next =>
      split_ifs at step with complete
      obtain ⟨⟨begun, mode⟩, begins, same⟩ := Option.map_eq_some_iff.mp step
      cases same
      obtain ⟨read', hasRead, completes⟩ := hasRead_of_begin? begins
      refine ⟨read', hasRead, ?_⟩
      intro ts t rest
      rw [List.append_assoc]
      exact .token (.number (read.literal complete)) (completes ts t rest)

/-- **A step keeps account of what has been read.**  The characters of a token are kept until it is
complete; a character that completes a token is kept on only if it begins another one. -/
theorem HasRead.step {mode next : Mode} {read : Gapped} {c : Option Char} {tokens : List Token}
    (hasRead : mode.HasRead read) (step : mode.step? c = some (tokens, next)) :
    ∃ read', next.HasRead read' ∧ Completes (read ++ [c]) tokens read' := by
  cases c with
  | none =>
    -- Only a string goes on over a gap.
    cases hasRead with
    | @text done s read =>
      cases step
      refine ⟨_, .text ?_, .nothing _⟩
      rw [List.reverse_cons]
      exact read.concat .gap
    | between | word | number | escape | unit => cases step
  | some c =>
    cases hasRead with
    | between => exact hasRead_of_begin? step
    | @word owed t s spelled =>
      cases owed with
      | nil => cases step
      | cons o owed =>
        simp only [step?] at step
        split_ifs at step with same
        subst same
        cases owed with
        | nil =>
          cases step
          exact ⟨[], .between, .token spelled⟩
        | cons p owed =>
          cases step
          refine ⟨_, .word ?_, .nothing _⟩
          rw [List.append_assoc]
          exact spelled
    | number read => exact HasRead.inNumber read step
    | text read => exact HasRead.inText read step
    | @escape done s read =>
      simp only [step?] at step
      split_ifs at step with unit
      · cases step
        rw [unit, List.cons_append, List.append_assoc]
        have none : AreDigits hexDigit? [] [] := .nil
        exact ⟨_, .unit read none (by decide) rfl, .nothing _⟩
      · obtain ⟨x, stands, same⟩ := Option.map_eq_some_iff.mp step
        cases same
        rw [List.cons_append, List.append_assoc]
        refine ⟨_, .text ?_, .nothing _⟩
        rw [List.reverse_cons]
        exact read.concat (.letter stands)
    | @unit done s owed values h read digits positive four =>
      obtain ⟨d, digit, same⟩ := Option.map_eq_some_iff.mp step
      have longer : some '"' :: (s ++ some '\\' :: some 'u' :: h.map some) ++ [some c] =
          some '"' :: (s ++ some '\\' :: some 'u' :: (h ++ [c]).map some) := by simp
      rw [longer]
      rw [← numeral_concat] at same
      split_ifs at same with last
      · cases same
        refine ⟨_, .text ?_, .nothing _⟩
        rw [List.reverse_cons]
        refine read.concat (.unit (digits.concat digit) ?_)
        rw [List.length_append, List.length_singleton]
        omega
      · cases same
        refine ⟨_, .unit read (digits.concat digit) (by omega) ?_, .nothing _⟩
        rw [List.length_append, List.length_singleton]
        omega

/-- What the end of the text completes has been read. -/
theorem HasRead.finish {mode : Mode} {read : Gapped} {tokens : List Token}
    (hasRead : mode.HasRead read) (finish : mode.finish? = some tokens) :
    Token.AreSpelledBy tokens read := by
  cases hasRead with
  | between =>
    cases finish
    exact .nil
  | number read =>
    simp only [finish?] at finish
    split_ifs at finish with complete
    cases finish
    exact .single (.number (read.literal complete))
  | word | text | escape | unit => cases finish

end Mode

/-- **Tokens that are read are spelled**, those that have begun before and those
that begin later. -/
theorem areSpelledBy_of_tokensFrom? {s read : Gapped} {mode : Mode} {tokens : List Token}
    (hasRead : mode.HasRead read) (all : tokensFrom? mode s = some tokens) :
    Token.AreSpelledBy tokens (read ++ s) := by
  induction s generalizing mode read tokens with
  | nil =>
    rw [List.append_nil]
    exact hasRead.finish all
  | cons c s ih =>
    obtain ⟨⟨first, next⟩, step, rest⟩ := Option.bind_eq_some_iff.mp all
    obtain ⟨more, later, same⟩ := Option.bind_eq_some_iff.mp rest
    cases same
    obtain ⟨read', hasRead', completes⟩ := hasRead.step step
    have spelled := completes more s (ih hasRead' later)
    rwa [List.append_assoc] at spelled

end DaemonWatch.Json
