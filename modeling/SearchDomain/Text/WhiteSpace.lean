/-!
# WhiteSpace — the White_Space property, and trimming

The 25 characters with the Unicode property White_Space, and the cut that drops them from both ends of a text.
Core's `Char.isWhitespace` knows six of them only.
-/
namespace SearchDomain.Text

/-- White_Space of the Unicode Character Database. -/
def isWhiteSpace (c : Char) : Bool :=
  let n := c.toNat
  (0x09 ≤ n && n ≤ 0x0D) || n == 0x20 || n == 0x85 || n == 0xA0 || n == 0x1680 || (0x2000 ≤ n && n ≤ 0x200A)
    || n == 0x2028 || n == 0x2029 || n == 0x202F || n == 0x205F || n == 0x3000

/-- The list without its longest tail that satisfies `p`. -/
def dropTailWhile (p : Char → Bool) (cs : List Char) : List Char := (cs.reverse.dropWhile p).reverse

def trimStart (cs : List Char) : List Char := cs.dropWhile isWhiteSpace

def trimEnd (cs : List Char) : List Char := dropTailWhile isWhiteSpace cs

def trim (cs : List Char) : List Char := trimEnd (trimStart cs)

end SearchDomain.Text
