/-!
# Hex — hexadecimal digits
-/
namespace SearchDomain.Text.Hex

def lower (n : Nat) : Char := if n < 10 then Char.ofNat (48 + n) else Char.ofNat (87 + n)

def upper (n : Nat) : Char := if n < 10 then Char.ofNat (48 + n) else Char.ofNat (55 + n)

def value? (c : Char) : Option Nat :=
  let n := c.toNat
  if 48 ≤ n ∧ n ≤ 57 then some (n - 48)
  else if 65 ≤ n ∧ n ≤ 70 then some (n - 55)
  else if 97 ≤ n ∧ n ≤ 102 then some (n - 87)
  else none

def ofBytes (bytes : List UInt8) : List Char :=
  bytes.flatMap fun b => [lower (b.toNat / 16), lower (b.toNat % 16)]

end SearchDomain.Text.Hex
