-- Sets of code points given as tables of ranges.
namespace RouteWatch.Text

-- A set of code points: disjoint ranges in increasing order, each its first and last point.
abbrev RangeTable := Array (Nat × Nat)

-- The first position in `[lo, hi)` whose range ends at or above `n`, or `hi`; each round
-- halves the interval, so `fuel` above the table's size is never used up.
def RangeTable.lowerBound (t : RangeTable) (n : Nat) : Nat → Nat → Nat → Nat
  | 0, lo, _ => lo
  | fuel + 1, lo, hi =>
    if lo < hi then
      let mid := lo + (hi - lo) / 2
      match t[mid]? with
      | some r =>
        if r.2 < n then RangeTable.lowerBound t n fuel (mid + 1) hi
        else RangeTable.lowerBound t n fuel lo mid
      | none => lo
    else lo

-- Whether code point `n` lies in one of the ranges.
def RangeTable.contains (t : RangeTable) (n : Nat) : Bool :=
  match t[t.lowerBound n (t.size + 1) 0 t.size]? with
  | some r => decide (r.1 ≤ n)
  | none => false

example : RangeTable.contains #[(1, 3), (7, 7), (10, 20)] 7 = true ∧
    RangeTable.contains #[(1, 3), (7, 7), (10, 20)] 5 = false ∧
    RangeTable.contains #[(1, 3), (7, 7), (10, 20)] 21 = false := by
  decide

end RouteWatch.Text
