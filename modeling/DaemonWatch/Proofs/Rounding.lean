/-
  How far below a number its floating point number can be.

  1. **The number of a magnitude** (`Magnitude.value`) is rational, and the whole part of the
     magnitude is the floor of it (`Magnitude.truncate_eq`).  So bounds are shown for rational
     numbers, and carry over.

  2. **One rounding.**  What a number is rounded to is a significand in units of the last place
     (`value_ofRatio?`).

  3. **The crux (`two_pow_le_ofRatio?`)**: rounding does not fall below a power of two that is a
     whole number.  Either the power is a multiple of the last place, and then rounding down stops
     at it (`two_pow_le_significandFor`), or one unit of the last place is greater than it, and then
     the number itself counts at least one such unit (`two_zpow_exponentFor_le`).

  4. **Several roundings.**  A product and a decimal are rounded more than once, and each time they
     may become smaller.  But no rounding falls below a power of two, so neither falls below the
     product of the powers that its factors are not below (`Magnitude.two_pow_le_mul?`,
     `two_pow_le_ofDecimal?`).
-/
import DaemonWatch.Binary64.Basic
import Mathlib.Algebra.Order.Floor.Semifield
import Mathlib.Algebra.Order.Field.Power
import Mathlib.Data.Rat.Floor
import Mathlib.Tactic.FieldSimp
import Mathlib.Tactic.Positivity

namespace DaemonWatch.Binary64

/-! ## The number of a magnitude -/

/-- A power of two as a quotient of whole numbers. -/
theorem two_zpow_eq (e : ℤ) :
    (2 : ℚ) ^ e = (Nat.pow 2 e.toNat : ℕ) / (Nat.pow 2 (-e).toNat : ℕ) := by
  have exponent : (e.toNat : ℤ) = e + (-e).toNat := by omega
  have positive : (2 : ℚ) ^ (-e).toNat ≠ 0 := by positivity
  rw [eq_div_iff (by exact_mod_cast positive)]
  simp only [Nat.pow_eq, Nat.cast_pow, Nat.cast_ofNat, ← zpow_natCast]
  rw [← zpow_add₀ two_ne_zero, exponent]

namespace Magnitude

/-- The number that a magnitude stands for. -/
def value (m : Magnitude) : ℚ := m.significand * 2 ^ m.exponent

/-- The whole part of a magnitude is that of its number. -/
theorem truncate_eq (m : Magnitude) : m.truncate = ⌊m.value⌋₊ := by
  rw [value, two_zpow_eq, ← mul_div_assoc, ← Nat.cast_mul, Nat.floor_div_eq_div]
  rfl

theorem two_pow_le_truncate {m : Magnitude} {k : ℕ} (bound : (2 : ℚ) ^ k ≤ m.value) :
    2 ^ k ≤ m.truncate := by
  rw [truncate_eq]
  exact Nat.le_floor (by exact_mod_cast bound)

end Magnitude

/-! ## Rounding -/

theorem div_le_roundHalfEven (num den : ℕ) : num / den ≤ roundHalfEven num den := by
  unfold roundHalfEven
  dsimp only
  split_ifs <;> omega

/-- The last place does not count more than the whole number, when it counts more than one. -/
theorem two_zpow_exponentFor_le {num den : ℕ} (num_pos : 0 < num) (den_pos : 0 < den)
    (large : 0 < exponentFor num den) : (2 : ℚ) ^ exponentFor num den ≤ num / den := by
  have exponent : exponentFor num den ≤ (num.log2 : ℤ) - den.log2 - 52 := by
    unfold exponentFor at large ⊢
    dsimp only at large ⊢
    split_ifs at large ⊢ <;> omega
  generalize exponentFor num den = e at large exponent
  obtain ⟨n, rfl⟩ := Int.eq_ofNat_of_zero_le large.le
  have bits : n + (den.log2 + 1) ≤ num.log2 := by omega
  have product : 2 ^ n * den ≤ num :=
    calc 2 ^ n * den ≤ 2 ^ n * 2 ^ (den.log2 + 1) :=
          Nat.mul_le_mul_left _ Nat.lt_log2_self.le
      _ = 2 ^ (n + (den.log2 + 1)) := (Nat.pow_add 2 n _).symm
      _ ≤ 2 ^ num.log2 := Nat.pow_le_pow_right (by decide) bits
      _ ≤ num := Nat.log2_self_le num_pos.ne'
  rw [zpow_natCast, le_div_iff₀ (by exact_mod_cast den_pos)]
  exact_mod_cast product

/-- The significand that a number is rounded to, in units of the last place. -/
def significandFor (num den : ℕ) : ℕ :=
  let e := exponentFor num den
  roundHalfEven (num * Nat.pow 2 (-e).toNat) (den * Nat.pow 2 e.toNat)

/-- What a number is rounded to. -/
theorem value_ofRatio? {num den : ℕ} {m : Magnitude} (num_pos : 0 < num)
    (rounded : ofRatio? num den = some m) :
    m.value = significandFor num den * 2 ^ exponentFor num den := by
  unfold ofRatio? at rounded
  rw [if_neg num_pos.ne'] at rounded
  dsimp only at rounded
  split_ifs at rounded with full
  · -- A significand that is full is the next binade's least.
    cases rounded
    have same : significandFor num den = Nat.pow 2 53 := full
    rw [same, Magnitude.value, zpow_add₀ two_ne_zero]
    norm_num
    ring
  · cases rounded
    rfl

/-- Whole units of the last place that the number holds are held after rounding. -/
theorem two_pow_le_significandFor {num den : ℕ} (den_pos : 0 < den) {j : ℕ}
    (bound : (2 : ℚ) ^ j * 2 ^ exponentFor num den ≤ num / den) :
    2 ^ j ≤ significandFor num den := by
  unfold significandFor
  generalize exponentFor num den = e at bound
  refine le_trans ?_ (div_le_roundHalfEven _ _)
  have up : 0 < Nat.pow 2 e.toNat := Nat.two_pow_pos _
  have down : (0 : ℚ) < (Nat.pow 2 (-e).toNat : ℕ) := Nat.cast_pos.mpr (Nat.two_pow_pos _)
  rw [Nat.le_div_iff_mul_le (Nat.mul_pos den_pos up)]
  rw [two_zpow_eq, ← mul_div_assoc, div_le_div_iff₀ down (by exact_mod_cast den_pos)] at bound
  have whole : 2 ^ j * Nat.pow 2 e.toNat * den ≤ num * Nat.pow 2 (-e).toNat := by
    exact_mod_cast bound
  calc 2 ^ j * (den * Nat.pow 2 e.toNat) = 2 ^ j * Nat.pow 2 e.toNat * den := by ring
    _ ≤ num * Nat.pow 2 (-e).toNat := whole

/-- **Rounding does not fall below a whole power of two.**  The power is compared with one unit of
the last place: as a multiple of it the power is itself a candidate for the rounded number, and as
less than it the power is passed by the first unit. -/
theorem two_pow_le_ofRatio? {num den k : ℕ} {m : Magnitude} (den_pos : 0 < den)
    (bound : (2 : ℚ) ^ k ≤ num / den) (rounded : ofRatio? num den = some m) :
    (2 : ℚ) ^ k ≤ m.value := by
  have num_pos : 0 < num := by
    rcases Nat.eq_zero_or_pos num with rfl | positive
    · have positive : (0 : ℚ) < 2 ^ k := by positivity
      rw [Nat.cast_zero, zero_div] at bound
      exact absurd bound positive.not_ge
    · exact positive
  rw [value_ofRatio? num_pos rounded]
  obtain ⟨j, above, below⟩ : ∃ j : ℕ, (2 : ℚ) ^ k ≤ 2 ^ j * 2 ^ exponentFor num den ∧
      (2 : ℚ) ^ j * 2 ^ exponentFor num den ≤ num / den := by
    rcases le_or_gt (exponentFor num den) k with fits | coarse
    · -- The power is a multiple of the last place.
      have multiple :
          (2 : ℚ) ^ (k - exponentFor num den).toNat * 2 ^ exponentFor num den = 2 ^ k := by
        rw [← zpow_natCast, ← zpow_add₀ two_ne_zero, ← zpow_natCast]
        congr 1
        omega
      exact ⟨_, multiple.ge, multiple.le.trans bound⟩
    · refine ⟨0, ?_, ?_⟩
      · rw [pow_zero, one_mul, ← zpow_natCast]
        exact zpow_le_zpow_right₀ one_le_two coarse.le
      · rw [pow_zero, one_mul]
        exact two_zpow_exponentFor_le num_pos den_pos (by omega)
  have held : ((2 : ℚ) ^ j) ≤ significandFor num den := by
    exact_mod_cast two_pow_le_significandFor den_pos below
  exact above.trans (mul_le_mul_of_nonneg_right held (by positivity))

/-! ## Products and decimals -/

theorem two_pow_le_ofScaledRatio? {num den k : ℕ} {e : ℤ} {m : Magnitude} (den_pos : 0 < den)
    (bound : (2 : ℚ) ^ k ≤ num / den * 2 ^ e) (rounded : ofScaledRatio? num den e = some m) :
    (2 : ℚ) ^ k ≤ m.value := by
  have down : 0 < Nat.pow 2 (-e).toNat := Nat.two_pow_pos _
  refine two_pow_le_ofRatio? (Nat.mul_pos den_pos down) ?_ rounded
  rw [Nat.cast_mul, Nat.cast_mul, mul_div_mul_comm, ← two_zpow_eq]
  exact bound

/-- A product does not fall below the product of powers of two that its factors do not fall
below. -/
theorem Magnitude.two_pow_le_mul? {a b m : Magnitude} {j k : ℕ} (left : (2 : ℚ) ^ j ≤ a.value)
    (right : (2 : ℚ) ^ k ≤ b.value) (product : a.mul? b = some m) :
    (2 : ℚ) ^ (j + k) ≤ m.value := by
  refine two_pow_le_ofScaledRatio? one_pos ?_ product
  calc (2 : ℚ) ^ (j + k) = 2 ^ j * 2 ^ k := pow_add 2 j k
    _ ≤ a.value * b.value := mul_le_mul left right (by positivity) (le_trans (by positivity) left)
    _ = (a.significand * b.significand : ℕ) / (1 : ℕ) * 2 ^ (a.exponent + b.exponent) := by
      rw [value, value, zpow_add₀ two_ne_zero]
      push_cast
      ring

/-- **A decimal does not fall below the product** of powers of two that its significand and its
power of ten do not fall below. -/
theorem two_pow_le_ofDecimal? {significand n j k : ℕ} {m : Magnitude} (left : 2 ^ j ≤ significand)
    (right : 2 ^ k ≤ 10 ^ n) (read : ofDecimal? significand n = some m) :
    2 ^ (j + k) ≤ m.truncate := by
  obtain ⟨whole, rounded, grown⟩ := Option.bind_eq_some_iff.mp read
  have large : (2 : ℚ) ^ j ≤ whole.value := by
    refine two_pow_le_ofRatio? one_pos ?_ rounded
    rw [Nat.cast_one, div_one]
    exact_mod_cast left
  rw [if_pos (Int.natCast_nonneg n), Int.toNat_natCast] at grown
  unfold grow? at grown
  split_ifs at grown with tabled zero
  · obtain ⟨power, table, product⟩ := Option.bind_eq_some_iff.mp grown
    have tens : (2 : ℚ) ^ k ≤ power.value := by
      refine two_pow_le_ofRatio? one_pos ?_ table
      rw [Nat.cast_one, div_one]
      exact_mod_cast right
    exact Magnitude.two_pow_le_truncate (Magnitude.two_pow_le_mul? large tens product)
  · -- What is not below a power of two is not zero.
    have nothing : whole.value = 0 := by
      rw [Magnitude.value, beq_iff_eq.mp zero, Nat.cast_zero, zero_mul]
    rw [nothing] at large
    have positive : (0 : ℚ) < 2 ^ j := by positivity
    exact absurd large positive.not_ge

theorem Magnitude.zero_mul? (m : Magnitude) : zero.mul? m = some .zero := by
  unfold mul? ofScaledRatio?
  rw [show zero.significand = 0 from rfl, Nat.zero_mul, Nat.zero_mul, ofRatio?, if_pos rfl]

theorem Magnitude.truncate_zero : zero.truncate = 0 := by
  rw [truncate, show zero.significand = 0 from rfl, Nat.zero_mul, Nat.zero_div]

/-- Zero stays zero, whatever the power of ten. -/
theorem ofDecimal?_zero {n : ℕ} {m : Magnitude} (read : ofDecimal? 0 n = some m) : m = .zero := by
  have grown : grow? .zero n = some m := read
  unfold grow? at grown
  split_ifs at grown
  · obtain ⟨power, -, product⟩ := Option.bind_eq_some_iff.mp grown
    rw [Magnitude.zero_mul?] at product
    exact (Option.some.inj product).symm
  · exact (Option.some.inj grown).symm

end DaemonWatch.Binary64
