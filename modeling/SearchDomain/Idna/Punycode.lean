/-!
# Punycode — labels of any script in letters, digits and hyphens

The ASCII characters of a label come first. Behind a hyphen follow numbers, one for every other character in the order
of their code points: how many steps lead from one insertion to the next, where a step goes to the next place in the
label, and behind its end to the next code point. A number is written with digits of 36 values, the lowest first; the
last one is below a threshold that adapts to the numbers before it.
-/
namespace SearchDomain.Idna.Punycode

/-! ## Digits -/

/-- Small letters, then decimal digits. -/
def digit (d : Nat) : Char := Char.ofNat (if d < 26 then 97 + d else 22 + d)

def digit? (c : Char) : Option Nat :=
  if c.isLower then some (c.toNat - 97) else if c.isDigit then some (c.toNat - 22) else none

def base : Nat := 36

/-- The threshold at a position: at least one, at most 26. -/
def threshold (bias position : Nat) : Nat := max 1 (min 26 (position - bias))

/-- Divide by 35 until the result is small, and count the divisions. -/
def shrunk (delta : Nat) : Nat × Nat :=
  if 455 < delta then
    let (small, count) := shrunk (delta / 35)
    (small, count + 1)
  else (delta, 0)
termination_by delta
decreasing_by exact Nat.div_lt_self (by omega) (by omega)

/-- The bias after a number, in a label that has `size` characters by now. The first number counts for less. -/
def adapted (delta size : Nat) (first : Bool) : Nat :=
  let delta := if first then delta / 700 else delta / 2
  let (small, count) := shrunk (delta + delta / size)
  count * base + base * small / (small + 38)

def firstBias : Nat := 72

/-- The first code point that is no ASCII character. -/
def firstPoint : Nat := 128

def isAscii (c : Char) : Bool := c.toNat < firstPoint

/-! ## Writing -/

theorem one_le_threshold (bias position : Nat) : 1 ≤ threshold bias position := Nat.le_max_left ..

/-- The digits of a number from a position on. -/
def writeNumber (bias position n : Nat) : List Char :=
  let t := threshold bias position
  if n < t then [digit n]
  else digit (t + (n - t) % (base - t)) :: writeNumber bias (position + base) ((n - t) / (base - t))
termination_by n
decreasing_by
  have one_le := one_le_threshold bias position
  exact Nat.lt_of_le_of_lt (Nat.div_le_self _ _) (by omega)

/-- What is written so far: the steps since the last insertion, the bias, and the characters that are in place. -/
structure Writer where
  steps : Nat := 0
  bias : Nat := firstBias
  placed : Nat
  written : List Char := []

/-- Pass a character of the label on the way through a code point: step over it, or insert it. -/
def Writer.pass (basics point : Nat) (w : Writer) (c : Char) : Writer :=
  if c.toNat < point then { w with steps := w.steps + 1 }
  else if c.toNat = point then
    { steps := 0
      bias := adapted w.steps (w.placed + 1) (w.placed == basics)
      placed := w.placed + 1
      written := w.written ++ writeNumber w.bias base w.steps }
  else w

/-- Insert all characters with code points among these, which come in increasing order. -/
def writePoints (label : List Char) (basics : Nat) : (reached : Nat) → List Nat → Writer → List Char
  | _, [], w => w.written
  | reached, point :: points, w =>
    let before := { w with steps := w.steps + (point - reached) * (w.placed + 1) }
    let after := label.foldl (Writer.pass basics point) before
    writePoints label basics (point + 1) points { after with steps := after.steps + 1 }

def encode (label : List Char) : List Char :=
  let basics := label.filter isAscii
  let points := (((label.filter (!isAscii ·)).map Char.toNat).eraseDups).mergeSort (· ≤ ·)
  (if basics = [] then [] else basics ++ ['-'])
    ++ writePoints label basics.length firstPoint points { placed := basics.length }

/-! ## Reading -/

/-- Numbers must stay below this, `2 ^ 32`. -/
def numberLimit : Nat := 0x100000000

/-- A number off the front of a text, added to `sum`; `weight` is the value of a one at this position. -/
def readNumber (bias : Nat) : (position weight sum : Nat) → List Char → Option (Nat × List Char)
  | _, _, _, [] => none
  | position, weight, sum, c :: cs => do
    let d ← digit? c
    let sum := sum + d * weight
    if numberLimit ≤ sum then none
    let t := threshold bias position
    if d < t then some (sum, cs)
    else if numberLimit ≤ weight * (base - t) then none
    else readNumber bias (position + base) (weight * (base - t)) sum cs

/-- Insert the characters that numbers tell, from a code point and a place on. -/
def insertAll : (fuel : Nat) → (point bias place : Nat) → (label : List Char) → List Char → Option (List Char)
  | _, _, _, _, label, [] => some label
  | 0, _, _, _, _, _ => none
  | fuel + 1, point, bias, place, label, cs => do
    let (reached, rest) ← readNumber bias base 1 place cs
    let size := label.length + 1
    let point := point + reached / size
    if point.isValidChar then
      insertAll fuel point (adapted (reached - place) size (place == 0)) (reached % size + 1)
        (label.insertIdx (reached % size) (Char.ofNat point)) rest
    else none

/-- The label of a written form in small letters. A hyphen that ends no ASCII characters is refused. -/
def decode? (cs : List Char) : Option (List Char) :=
  let numbers := (cs.reverse.takeWhile (· ≠ '-')).reverse
  let basics := cs.take (cs.length - numbers.length - 1)
  if !cs.all isAscii || (basics = [] && numbers.length < cs.length) then none
  else insertAll numbers.length firstPoint firstBias 0 basics numbers

end SearchDomain.Idna.Punycode
