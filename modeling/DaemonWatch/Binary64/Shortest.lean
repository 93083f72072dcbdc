/-
  The shortest decimal of a number, and its text.

  The decimals that read back as a magnitude are those between the midpoints to its two
  neighbours, the midpoints included when its significand is even.  `shortest` tries the grids
  of powers of ten from coarse to fine: on the first grid with a point in that range it takes the
  nearer of the two points that enclose the value.
-/
import DaemonWatch.Binary64.Basic

namespace DaemonWatch.Binary64

/-- A decimal `digits * 10 ^ power`. -/
structure Decimal where
  digits : Nat
  power : Int
  deriving Repr, DecidableEq

namespace Magnitude

/-! ## The range that reads back -/

/-- The lower midpoint, the value and the upper midpoint, in units of a quarter of the last
place.  Below a power of two the neighbour is half as far. -/
def quarters (m : Magnitude) : Nat × Nat × Nat :=
  let n := 4 * m.significand
  if m.significand = Nat.pow 2 52 && (-1074 : Int) < m.exponent then (n - 1, n, n + 2)
  else (n - 2, n, n + 2)

/-- The two points of the grid `10 ^ power` that enclose the magnitude, kept when they read back,
the nearer one first. -/
def onGrid (m : Magnitude) (power : Int) : List Nat :=
  let (low, value, high) := m.quarters
  let unit := Nat.pow 2 (m.exponent - 2).toNat * Nat.pow 10 (-power).toNat
  let grid := Nat.pow 2 (2 - m.exponent).toNat * Nat.pow 10 power.toNat
  let within := fun (d : Nat) =>
    if m.significand % 2 = 0 then low * unit ≤ d * grid && d * grid ≤ high * unit
    else low * unit < d * grid && d * grid < high * unit
  let below := value * unit / grid
  let rest := 2 * (value * unit % grid)
  let candidates :=
    if rest < grid || (rest = grid && below % 2 = 0) then [below, below + 1]
    else [below + 1, below]
  candidates.filter within

/-- The grids from `power` down, `count` of them, until one has a point that reads back. -/
def firstOnGrid (m : Magnitude) (power : Int) : Nat → Decimal
  | 0 => ⟨m.truncate, 0⟩
  | count + 1 =>
    match m.onGrid power with
    | d :: _ => ⟨d, power⟩
    | [] => firstOnGrid m (power - 1) count

/-- A decimal with the fewest digits that reads back as the magnitude. -/
def shortest (m : Magnitude) : Decimal :=
  let bits : Int := (m.significand.log2 : Int) + m.exponent
  m.firstOnGrid (bits * 30103 / 100000 + 2) 24

end Magnitude

/-! ## The text -/

/-- Zeros in number `n`. -/
def zeros (n : Nat) : List Char := List.replicate n '0'

/-- The text of a decimal: positional from 10^-5 to below 10^16, always with a fraction; else one
digit, the others as its fraction, and the exponent with its sign. -/
def Decimal.text (d : Decimal) : List Char :=
  let digits := Nat.toDigits 10 d.digits
  let count : Int := digits.length
  let point := count + d.power
  if 0 ≤ d.power && point ≤ 16 then digits ++ zeros d.power.toNat ++ ['.', '0']
  else if 0 < point && point ≤ 16 then
    digits.take point.toNat ++ '.' :: digits.drop point.toNat
  else if -5 < point && point ≤ 0 then '0' :: '.' :: zeros (-point).toNat ++ digits
  else
    let fraction := if digits.length = 1 then [] else '.' :: digits.drop 1
    let exponent := point - 1
    let sign := if exponent < 0 then '-' else '+'
    digits.take 1 ++ fraction ++ 'e' :: sign :: Nat.toDigits 10 exponent.natAbs

end DaemonWatch.Binary64

namespace DaemonWatch

/-- The text of a number, which reads back as it. -/
def Binary64.text (x : Binary64) : List Char :=
  let body := if x.magnitude.isZero then ['0', '.', '0'] else x.magnitude.shortest.text
  if x.negative then '-' :: body else body

end DaemonWatch
