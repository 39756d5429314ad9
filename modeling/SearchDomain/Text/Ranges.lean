/-!
# Ranges — tables of code points, sorted

A table is an array of rows in increasing order of the code points at which they start. A character class is such a
table of disjoint closed ranges. What a table says of a code point is said by the last row that starts at or below
it, found by binary search.
-/
namespace SearchDomain.Text.Ranges

/-- The last row that starts at or below `n` among those with an index in `[low, low + size)`, else `best`; `fuel`
halvings of the interval remain. -/
def lastBetween {α : Type} (start : α → Nat) (rows : Array α) (n : Nat) :
    (fuel low size : Nat) → (best : Option α) → Option α
  | 0, _, _, best => best
  | fuel + 1, low, size, best =>
    if size = 0 then best
    else
      let half := size / 2
      match rows[low + half]? with
      | none => best
      | some row =>
        if start row ≤ n then lastBetween start rows n fuel (low + half + 1) (size - half - 1) (some row)
        else lastBetween start rows n fuel low half best

def last? {α : Type} (start : α → Nat) (rows : Array α) (n : Nat) : Option α :=
  lastBetween start rows n (rows.size + 1) 0 rows.size none

def has (ranges : Array (Nat × Nat)) (n : Nat) : Bool := (last? (·.1) ranges n).any fun range => n ≤ range.2

end SearchDomain.Text.Ranges
