/-!
# Binary64 — floating-point numbers, computed exactly

A finite binary64 number is a sign and a magnitude `mantissa * 2 ^ exponent`. Every operation takes the exact
rational result and rounds it once: to the nearest number, a tie to the even mantissa, nothing if it is too large.
-/
namespace SearchDomain.Decimal

/-- A finite binary64 number. In normal form the mantissa is below `2 ^ 53`, the exponent at least `-1074`, and the
mantissa is at least `2 ^ 52` unless the exponent is `-1074`. -/
structure Binary64 where
  negative : Bool
  mantissa : Nat
  exponent : Int
  deriving DecidableEq, Repr

namespace Binary64

def minExponent : Int := -1074

def maxExponent : Int := 971

/-- The least mantissa of full length, `2 ^ 52`. -/
def leastNormal : Nat := 0x10000000000000

def zero : Binary64 := ⟨false, 0, minExponent⟩

/-- The quotient rounded to the nearest integer, a tie to the even one. -/
def roundDiv (n d : Nat) : Nat :=
  let q := n / d
  let twice := 2 * (n % d)
  if twice < d then q else if twice > d then q + 1 else q + q % 2

/-- The ratio `num / den` divided by `2 ^ q`, as a ratio. -/
def scaled (num den : Nat) (q : Int) : Nat × Nat :=
  if q < 0 then (num * Nat.pow 2 q.natAbs, den) else (num, den * Nat.pow 2 q.natAbs)

/-- The `k` with `2 ^ k ≤ num / den < 2 ^ (k + 1)`. -/
def floorLog2 (num den : Nat) : Int :=
  let k := (num.log2 : Int) - den.log2
  let (n, d) := scaled num den k
  if d ≤ n then k else k - 1

/-- The number nearest to `num / den`. -/
def ofRatio? (num den : Nat) : Option Binary64 :=
  if num = 0 then some zero
  else
    let q := max (floorLog2 num den - 52) minExponent
    let (n, d) := scaled num den q
    let m := roundDiv n d
    let (m, q) := if m = 2 * leastNormal then (leastNormal, q + 1) else (m, q)
    if q > maxExponent then none else some ⟨false, m, q⟩

def ofNat? (n : Nat) : Option Binary64 := ofRatio? n 1

def ratio (x : Binary64) : Nat × Nat := scaled x.mantissa 1 (-x.exponent)

def withSign (negative : Bool) (x : Binary64) : Binary64 := { x with negative := negative }

def mul? (x y : Binary64) : Option Binary64 :=
  let (a, b) := x.ratio
  let (c, d) := y.ratio
  ofRatio? (a * c) (b * d)

/-- Quotient of two magnitudes; the divisor is not zero. -/
def div? (x y : Binary64) : Option Binary64 :=
  let (a, b) := x.ratio
  let (c, d) := y.ratio
  ofRatio? (a * d) (b * c)

/-- The largest power of ten that is used as a factor. -/
def maxPower : Nat := 308

/-- Scale by a power of ten: upwards in one multiplication, downwards in one division for every `10 ^ 308`. -/
def scale? : (fuel : Nat) → Binary64 → Int → Option Binary64
  | 0, x, _ => some x
  | fuel + 1, x, e =>
    if e.natAbs ≤ maxPower then
      (ofNat? (Nat.pow 10 e.natAbs)).bind fun power => if 0 ≤ e then x.mul? power else x.div? power
    else if x.mantissa = 0 then some x
    else if 0 ≤ e then none
    else ((ofNat? (Nat.pow 10 maxPower)).bind x.div?).bind fun y => scale? fuel y (e + maxPower)

/-- The magnitude `significand * 10 ^ e`, rounded at each step of `scale?`. -/
def ofParts? (significand : Nat) (e : Int) : Option Binary64 :=
  (ofNat? significand).bind fun x => scale? (e.natAbs / maxPower + 1) x e

end Binary64
end SearchDomain.Decimal
