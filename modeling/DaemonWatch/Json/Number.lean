/-
  Numbers in JSON text.

  `Literal` is what the text spells, digit by digit; `Number` is what it stands for.  A literal of
  an integer that 64 bits hold, signed or unsigned, is that integer.  Every other literal is a
  floating point number: one with a fraction or an exponent, one out of those ranges, and `-0`.  A
  floating point number keeps as many leading digits as 64 unsigned bits hold.

  1. `Literal.value?` makes a number of a literal: `Literal.int?` if the literal is kept exactly,
     and `Literal.double?` otherwise.

  2. `Number.toInt64` makes a signed 64-bit integer of a number, in whichever of three ways fits
     first.

  3. `Number.toInt64_eq` is what the three have in common: they cut the number toward zero and move
     it into the range.  Whoever needs to know what an integer field holds needs no more than that.
-/
import DaemonWatch.Binary64.Basic

namespace DaemonWatch.Json

/-! ## Spelling -/

/-- The parts of a number's spelling; digits are given by their values. -/
structure Literal where
  negative : Bool
  whole : List Nat
  fraction : List Nat
  exponent : Option Int
  deriving Repr, DecidableEq

/-! ## Value -/

/-- A number: an integer kept exactly, or a floating point number. -/
inductive Number
  | int (n : Int)
  | double (x : Binary64)
  deriving Repr, DecidableEq

/-- The least integer of 64 signed bits. -/
def minInt64 : Int := -0x8000000000000000

/-- The greatest integer of 64 signed bits. -/
def maxInt64 : Int := 0x7FFFFFFFFFFFFFFF

/-- The greatest integer of 64 unsigned bits. -/
def maxUInt64 : Nat := 0xFFFFFFFFFFFFFFFF

theorem minInt64_neg : minInt64 < 0 := by decide

theorem maxInt64_pos : 0 < maxInt64 := by decide

/-- Reads digits into a significand as long as 64 unsigned bits hold it; also the digits left. -/
def absorb (significand : Nat) : List Nat → Nat × List Nat
  | [] => (significand, [])
  | d :: ds =>
    if significand * 10 + d ≤ maxUInt64 then absorb (significand * 10 + d) ds
    else (significand, d :: ds)

namespace Literal

/-- The floating point number that the literal spells; nothing when it overflows.  Whole digits
that the significand has no room for raise the exponent, fraction digits it took in lower it. -/
def double? (l : Literal) : Option Binary64 :=
  let (whole, excess) := absorb 0 l.whole
  let (significand, unused) := absorb whole l.fraction
  let taken : Int := (l.fraction.length : Int) - unused.length
  let exponent : Int := (excess.length : Int) - taken + l.exponent.getD 0
  (Binary64.ofDecimal? significand exponent).map (⟨l.negative, ·⟩)

/-- The integer that the literal spells, when it spells one that is kept exactly. -/
def int? (l : Literal) : Option Int :=
  match absorb 0 l.whole, l.fraction, l.exponent with
  | (n, []), [], none =>
    if !l.negative then some n
    else if n = 0 || -(n : Int) < minInt64 then none
    else some (-n)
  | _, _, _ => none

/-- The number that the literal stands for. -/
def value? (l : Literal) : Option Number :=
  match l.int? with
  | some n => some (.int n)
  | none => l.double?.map .double

end Literal

namespace Number

/-- The number, if it is an integer that 64 signed bits hold. -/
def signed? : Number → Option Int
  | int n => if minInt64 ≤ n ∧ n ≤ maxInt64 then some n else none
  | double _ => none

/-- The number, if it is an integer that 64 unsigned bits hold. -/
def unsigned? : Number → Option Int
  | int n => if 0 ≤ n ∧ n ≤ maxUInt64 then some n else none
  | double _ => none

/-- The number cut toward zero. -/
def truncate : Number → Int
  | int n => n
  | double x => x.truncate

/-- The number as a signed 64-bit integer.  There are three ways to read it, and the first that fits
is taken: as a signed integer; as an unsigned one, of which no more than the largest signed one is
left; as a floating point number, which is cut toward zero and then moved into the range.  The
integer of a literal is always read in one of the first two. -/
def toInt64 (x : Number) : Int :=
  match x.signed? with
  | some n => n
  | none =>
    match x.unsigned? with
    | some n => min n maxInt64
    | none => max minInt64 (min maxInt64 x.truncate)

/-- All three ways come to the same: the number is cut toward zero and moved into the range. -/
theorem toInt64_eq (x : Number) : x.toInt64 = max minInt64 (min maxInt64 x.truncate) := by
  have least := minInt64_neg
  have greatest := maxInt64_pos
  cases x with
  | double => rfl
  | int n =>
    simp only [toInt64, signed?, unsigned?, truncate]
    by_cases signed : minInt64 ≤ n ∧ n ≤ maxInt64
    · rw [if_pos signed]
      show n = _
      omega
    · rw [if_neg signed]
      by_cases unsigned : 0 ≤ n ∧ n ≤ maxUInt64
      · rw [if_pos unsigned]
        show min n maxInt64 = _
        omega
      · rw [if_neg unsigned]

end Number

end DaemonWatch.Json
