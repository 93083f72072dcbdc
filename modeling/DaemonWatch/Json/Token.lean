/-
  The tokens of JSON text.

  1. **Tokens** (`Token`).  Reading a token does not yet decide what it is worth: a string may hold
     gaps and lone halves of a surrogate pair, and a number may be out of range.  `Piece.decode?`
     and `Literal.value?` decide that, for the strings and numbers that are looked at.

  2. **Numbers** (`Spelling`) are read digit by digit; `Part` says how far one has come, and with it
     what may follow.

  3. **Modes** (`Mode`).  The text is read one character at a time; the mode says what the
     characters since the last token have begun.  A step (`Mode.step?`) completes at most two
     tokens: a number, which ends with the character behind it, and that character.
-/
import DaemonWatch.Json.Number
import DaemonWatch.Text.Digit
import DaemonWatch.Text.Utf8

namespace DaemonWatch.Json

open Text

/-! ## Tokens -/

/-- One element of a string's spelling: a character, an undecodable byte, or an escaped 16-bit unit
that is half of a surrogate pair. -/
inductive Piece
  | char (c : Char)
  | gap
  | half (unit : Nat)
  deriving Repr, DecidableEq

/-- A token. -/
inductive Token
  | openArray
  | closeArray
  | openObject
  | closeObject
  | comma
  | colon
  | null
  | bool (b : Bool)
  | number (l : Literal)
  | text (s : List Piece)
  deriving Repr, DecidableEq

namespace Piece

/-- The characters of a string: every gap and every half without its other half spoils it. -/
def decode? : List Piece → Option (List Char)
  | [] => some []
  | .char c :: rest => (decode? rest).map (c :: ·)
  | .gap :: _ => none
  | .half high :: .half low :: rest =>
    if high < 0xDC00 && 0xDC00 ≤ low then
      (decode? rest).map
        (Char.ofNat (0x10000 + (high - 0xD800) * 0x400 + (low - 0xDC00)) :: ·)
    else none
  | .half _ :: _ => none

/-- The string of a spelling. -/
def string? (s : List Piece) : Option String := (decode? s).map String.ofList

/-- The piece of an escaped 16-bit unit. -/
def ofUnit (n : Nat) : Piece :=
  if 0xD800 ≤ n && n < 0xE000 then .half n else .char (Char.ofNat n)

end Piece

/-! ## Numbers -/

/-- How far the spelling of a number has come. -/
inductive Part
  | sign
  | zero
  | whole
  | point
  | fraction
  | mark
  | markSign
  | exponent
  deriving Repr, DecidableEq

/-- The spelling of a number so far, its digits latest first. -/
structure Spelling where
  part : Part
  negative : Bool
  whole : List Nat
  fraction : List Nat
  exponentNegative : Bool
  exponent : Nat
  deriving Repr, DecidableEq

namespace Spelling

/-- The spelling that a minus sign begins. -/
def minus : Spelling := ⟨.sign, true, [], [], false, 0⟩

/-- The spelling that a digit begins. -/
def digit (d : Nat) : Spelling := ⟨if d = 0 then .zero else .whole, false, [d], [], false, 0⟩

/-- Whether the spelling may end here. -/
def complete (n : Spelling) : Bool :=
  n.part = .zero || n.part = .whole || n.part = .fraction || n.part = .exponent

/-- The literal of a spelling. -/
def literal (n : Spelling) : Literal :=
  { negative := n.negative
    whole := n.whole.reverse
    fraction := n.fraction.reverse
    exponent :=
      if n.part = .exponent then
        some (if n.exponentNegative then -(n.exponent : Int) else n.exponent)
      else none }

/-- The spelling with one more digit, if a digit may follow. -/
def pushDigit? (n : Spelling) (d : Nat) : Option Spelling :=
  match n.part with
  | .sign => some { n with part := if d = 0 then .zero else .whole, whole := [d] }
  | .zero => none
  | .whole => some { n with whole := d :: n.whole }
  | .point | .fraction => some { n with part := .fraction, fraction := d :: n.fraction }
  | .mark | .markSign | .exponent =>
    some { n with part := .exponent, exponent := n.exponent * 10 + d }

/-- The spelling with one more character that is no digit, if that character may follow. -/
def pushMark? (n : Spelling) (c : Char) : Option Spelling :=
  match n.part with
  | .zero | .whole =>
    if c = '.' then some { n with part := .point }
    else if c = 'e' || c = 'E' then some { n with part := .mark }
    else none
  | .fraction => if c = 'e' || c = 'E' then some { n with part := .mark } else none
  | .mark =>
    if c = '+' then some { n with part := .markSign }
    else if c = '-' then some { n with part := .markSign, exponentNegative := true }
    else none
  | _ => none

end Spelling

/-! ## Reading -/

/-- What the characters read since the last token have begun. -/
inductive Mode
  | between
  | word (owed : List Char) (token : Token)
  | number (n : Spelling)
  | text (done : List Piece)
  | escape (done : List Piece)
  | unit (done : List Piece) (owed : Nat) (value : Nat)
  deriving Repr, DecidableEq

/-- Whether the character separates tokens. -/
def isSpace (c : Char) : Bool := c = ' ' || c = '\t' || c = '\n' || c = '\r'

/-- The character that a one-letter escape stands for. -/
def unescape? (c : Char) : Option Char :=
  if c = '"' || c = '\\' || c = '/' then some c
  else if c = 'b' then some '\x08'
  else if c = 'f' then some '\x0c'
  else if c = 'n' then some '\n'
  else if c = 'r' then some '\r'
  else if c = 't' then some '\t'
  else none

namespace Mode

/-- What a character between tokens completes and begins. -/
def begin? (c : Char) : Option (List Token × Mode) :=
  if isSpace c then some ([], .between)
  else match c with
    | '[' => some ([.openArray], .between)
    | ']' => some ([.closeArray], .between)
    | '\x7b' => some ([.openObject], .between)
    | '\x7d' => some ([.closeObject], .between)
    | ',' => some ([.comma], .between)
    | ':' => some ([.colon], .between)
    | '"' => some ([], .text [])
    | 'n' => some ([], .word ['u', 'l', 'l'] .null)
    | 't' => some ([], .word ['r', 'u', 'e'] (.bool true))
    | 'f' => some ([], .word ['a', 'l', 's', 'e'] (.bool false))
    | '-' => some ([], .number .minus)
    | _ => (digit? c).map fun d => ([], .number (.digit d))

/-- What a character within a string leads to. -/
def inText? (done : List Piece) (c : Char) : Option (List Token × Mode) :=
  if c = '"' then some ([.text done.reverse], .between)
  else if c = '\\' then some ([], .escape done)
  else if c.toNat < 0x20 then none
  else some ([], .text (.char c :: done))

/-- What a character within a number leads to: the number grows, or it is complete and the
character stands between tokens. -/
def inNumber? (n : Spelling) (c : Char) : Option (List Token × Mode) :=
  match digit? c with
  | some d => (n.pushDigit? d).map fun m => ([], .number m)
  | none =>
    match n.pushMark? c with
    | some m => some ([], .number m)
    | none =>
      if n.complete then (begin? c).map fun next => (.number n.literal :: next.1, next.2)
      else none

/-- The tokens that a character completes and the mode behind it. -/
def step? : Mode → Option Char → Option (List Token × Mode)
  | .text done, none => some ([], .text (.gap :: done))
  | _, none => none
  | .between, some c => begin? c
  | .word [] _, some _ => none
  | .word (o :: owed) token, some c =>
    if c = o then
      match owed with
      | [] => some ([token], .between)
      | _ => some ([], .word owed token)
    else none
  | .number n, some c => inNumber? n c
  | .text done, some c => inText? done c
  | .escape done, some c =>
    if c = 'u' then some ([], .unit done 4 0)
    else (unescape? c).map fun x => ([], .text (.char x :: done))
  | .unit done owed value, some c =>
    (hexDigit? c).map fun d =>
      let value := value * 16 + d
      if owed ≤ 1 then ([], .text (Piece.ofUnit value :: done))
      else ([], .unit done (owed - 1) value)

/-- The tokens that the end of the text completes. -/
def finish? : Mode → Option (List Token)
  | .between => some []
  | .number n => if n.complete then some [.number n.literal] else none
  | _ => none

end Mode

/-- The tokens of a text read in a mode. -/
def tokensFrom? (mode : Mode) : Gapped → Option (List Token)
  | [] => mode.finish?
  | c :: rest => do
    let (tokens, next) ← mode.step? c
    return tokens ++ (← tokensFrom? next rest)

/-- The tokens of a text. -/
def tokens? (s : Gapped) : Option (List Token) := tokensFrom? .between s

end DaemonWatch.Json
