/-
  Finite numbers of the 64-bit binary floating point format, exactly.

  A magnitude is `significand * 2 ^ exponent` with a significand below 2^53 and an exponent from
  -1074 to 971.  Every operation computes the exact rational result and rounds it once, to the
  nearest magnitude, a tie going to the even significand.  `none` stands for overflow.

  `ofDecimal?` reads a decimal the fast way: the significand is rounded to a magnitude, then one
  multiplication or division by a power of ten follows (several divisions for exponents that no
  table of powers holds), each rounded on its own.  The result can therefore differ in the last
  place from the nearest magnitude, and that difference is part of the number format.
-/

namespace DaemonWatch.Binary64

/-! ## Magnitudes -/

/-- The non-negative number `significand * 2 ^ exponent`. -/
structure Magnitude where
  significand : Nat
  exponent : Int
  deriving Repr, DecidableEq

namespace Magnitude

/-- The magnitude of nothing. -/
def zero : Magnitude := ⟨0, -1074⟩

/-- Whether the magnitude is zero. -/
def isZero (m : Magnitude) : Bool := m.significand == 0

/-- The whole part. -/
def truncate (m : Magnitude) : Nat :=
  m.significand * Nat.pow 2 m.exponent.toNat / Nat.pow 2 (-m.exponent).toNat

end Magnitude

/-! ## Rounding -/

/-- `num / den` rounded to the nearest integer, a half to the even one. -/
def roundHalfEven (num den : Nat) : Nat :=
  let quotient := num / den
  let twice := 2 * (num % den)
  if twice < den then quotient
  else if den < twice then quotient + 1
  else quotient + quotient % 2

/-- The exponent at which `num / den` has a significand of 53 bits, or the least exponent. -/
def exponentFor (num den : Nat) : Int :=
  let low : Int := max (-1074) ((num.log2 : Int) - (den.log2 : Int) - 53)
  let significand := num * Nat.pow 2 (-low).toNat / (den * Nat.pow 2 low.toNat)
  if Nat.pow 2 53 ≤ significand then low + 1 else low

/-- The magnitude nearest to `num / den`. -/
def ofRatio? (num den : Nat) : Option Magnitude :=
  if num = 0 then some .zero
  else
    let e := exponentFor num den
    let significand := roundHalfEven (num * Nat.pow 2 (-e).toNat) (den * Nat.pow 2 e.toNat)
    let rounded : Magnitude :=
      if significand = Nat.pow 2 53 then ⟨Nat.pow 2 52, e + 1⟩ else ⟨significand, e⟩
    if rounded.exponent ≤ 971 then some rounded else none

/-- The magnitude nearest to `num / den * 2 ^ e`. -/
def ofScaledRatio? (num den : Nat) (e : Int) : Option Magnitude :=
  ofRatio? (num * Nat.pow 2 e.toNat) (den * Nat.pow 2 (-e).toNat)

/-! ## Arithmetic -/

namespace Magnitude

/-- The rounded product. -/
def mul? (a b : Magnitude) : Option Magnitude :=
  ofScaledRatio? (a.significand * b.significand) 1 (a.exponent + b.exponent)

/-- The rounded quotient. -/
def div? (a b : Magnitude) : Option Magnitude :=
  ofScaledRatio? a.significand b.significand (a.exponent - b.exponent)

end Magnitude

/-- The magnitude nearest to a power of ten. -/
def powerOfTen? (n : Nat) : Option Magnitude := ofRatio? (Nat.pow 10 n) 1

/-! ## Reading a decimal -/

/-- The largest exponent whose power of ten is finite. -/
def maxPower : Nat := 308

/-- `m / 10 ^ n`, dividing by the largest power of ten while the exponent exceeds it. -/
def shrink? (m : Magnitude) (n : Nat) : Option Magnitude :=
  if n ≤ maxPower then do m.div? (← powerOfTen? n)
  else if m.isZero then some m
  else do shrink? (← m.div? (← powerOfTen? maxPower)) (n - maxPower)
termination_by n
decreasing_by simp only [maxPower] at *; omega

/-- `m * 10 ^ n`; beyond the largest power only zero is in range. -/
def grow? (m : Magnitude) (n : Nat) : Option Magnitude :=
  if n ≤ maxPower then do m.mul? (← powerOfTen? n)
  else if m.isZero then some m
  else none

/-- The magnitude read for `significand * 10 ^ exponent`. -/
def ofDecimal? (significand : Nat) (exponent : Int) : Option Magnitude := do
  let m ← ofRatio? significand 1
  if 0 ≤ exponent then grow? m exponent.toNat else shrink? m (-exponent).toNat

end DaemonWatch.Binary64

namespace DaemonWatch

/-- A finite number: a magnitude and its sign, which zero has too. -/
structure Binary64 where
  negative : Bool
  magnitude : Binary64.Magnitude
  deriving Repr, DecidableEq

/-- The integer part, toward zero. -/
def Binary64.truncate (x : Binary64) : Int :=
  if x.negative then -(x.magnitude.truncate : Int) else x.magnitude.truncate

end DaemonWatch
