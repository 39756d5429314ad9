import SearchDomain.Decimal.Binary64
/-!
# Shortest — the fewest digits that read back

A binary64 number stands for every real number that rounds to it. Among the decimal fractions in that interval the
shortest is written, of two of the same length the nearer, at a tie the one with the even last digit. Exponents from
-5 to 15 are written positionally with at least one digit after the point, others with an explicit sign.
-/
namespace SearchDomain.Decimal

/-- A positive decimal fraction `digits * 10 ^ exponent`. -/
structure Fraction where
  digits : Nat
  exponent : Int
  deriving DecidableEq, Repr

namespace Fraction

def digitCount (n : Nat) : Nat := (Nat.toDigits 10 n).length

/-- The ratio `num / den` divided by `10 ^ g`, as a ratio. -/
def scaled (num den : Nat) (g : Int) : Nat × Nat :=
  if g < 0 then (num * Nat.pow 10 g.natAbs, den) else (num, den * Nat.pow 10 g.natAbs)

/-- The `k` with `10 ^ k ≤ num / den < 10 ^ (k + 1)`. -/
def floorLog10 (num den : Nat) : Int :=
  let k := (digitCount num : Int) - digitCount den
  let (n, d) := scaled num den k
  if d ≤ n then k else k - 1

/-- Whether `digits * 10 ^ g` rounds to the number with this mantissa and exponent: it lies within half a step, the
ends included when the mantissa is even; below a power of two the step is half as long. -/
def roundsTo (x : Binary64) (digits : Nat) (g : Int) : Bool :=
  let unit := if x.mantissa = Binary64.leastNormal ∧ x.exponent > Binary64.minExponent then 1 else 2
  let (low, lowDen) := Binary64.scaled (4 * x.mantissa - unit) 4 (-x.exponent)
  let (high, highDen) := Binary64.scaled (4 * x.mantissa + 2) 4 (-x.exponent)
  let (n, d) := scaled digits 1 (-g)
  if x.mantissa % 2 = 0 then low * d ≤ n * lowDen && n * highDen ≤ high * d
  else low * d < n * lowDen && n * highDen < high * d

/-- The better of the two neighbours of the number on the grid `10 ^ g`, if one of them reads back. -/
def onGrid (x : Binary64) (g : Int) : Option Fraction :=
  let (num, den) := x.ratio
  let (n, d) := scaled num den g
  let below := n / d
  let twice := 2 * (n % d)
  let nearer := if twice < d then below else if twice > d then below + 1 else below + below % 2
  let other := if nearer = below then below + 1 else below
  if roundsTo x nearer g then some ⟨nearer, g⟩
  else if roundsTo x other g then some ⟨other, g⟩
  else none

/-- Trailing zeros moved into the exponent. -/
def strip : (fuel : Nat) → Fraction → Fraction
  | 0, f => f
  | fuel + 1, f => if f.digits % 10 = 0 ∧ f.digits ≠ 0 then strip fuel ⟨f.digits / 10, f.exponent + 1⟩ else f

/-- The first grid with a hit, from `n` digits on. -/
def search (x : Binary64) (top : Int) : (fuel n : Nat) → Fraction
  | 0, _ => ⟨x.mantissa, 0⟩
  | fuel + 1, n =>
    match onGrid x (top - n + 1) with
    | some f => strip 20 f
    | none => search x top fuel (n + 1)

/-- The shortest decimal fraction that reads back as a nonzero number. -/
def shortest (x : Binary64) : Fraction :=
  let (num, den) := x.ratio
  search x (floorLog10 num den) 17 1

def zeros (n : Nat) : List Char := List.replicate n '0'

/-- The smallest and the largest decimal exponent that are written positionally. -/
def positional (e : Int) : Bool := -5 ≤ e && e ≤ 15

def write (f : Fraction) : List Char :=
  let ds := Nat.toDigits 10 f.digits
  let e := f.exponent + ds.length - 1
  if positional e then
    if e < 0 then '0' :: '.' :: zeros (e.natAbs - 1) ++ ds
    else if ds.length ≤ e.natAbs + 1 then ds ++ zeros (e.natAbs + 1 - ds.length) ++ ['.', '0']
    else ds.take (e.natAbs + 1) ++ '.' :: ds.drop (e.natAbs + 1)
  else
    let fraction := if ds.length ≤ 1 then [] else '.' :: ds.drop 1
    ds.take 1 ++ fraction ++ ['e', if e < 0 then '-' else '+'] ++ Nat.toDigits 10 e.natAbs

end Fraction

def Binary64.write (x : Binary64) : List Char :=
  let magnitude := if x.mantissa = 0 then ['0', '.', '0'] else (Fraction.shortest x).write
  if x.negative then '-' :: magnitude else magnitude

end SearchDomain.Decimal
