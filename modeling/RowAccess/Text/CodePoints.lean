/-!
# Tables of code points

A property of characters is given by the ranges of code points that have it, in ascending order.
`inRanges` looks a code point up by halving the table.
-/

namespace RowAccess.Text

/-- Whether the code point lies in one of the ranges between the indices `lo` and `hi`; `fuel` bounds
the number of halvings. -/
def inRangesBetween (ranges : Array (Nat × Nat)) (code : Nat) : (fuel lo hi : Nat) → Bool
  | 0, _, _ => false
  | fuel + 1, lo, hi =>
    if lo < hi then
      let mid := (lo + hi) / 2
      match ranges[mid]? with
      | none => false
      | some (first, last) =>
        if code < first then inRangesBetween ranges code fuel lo mid
        else if last < code then inRangesBetween ranges code fuel (mid + 1) hi
        else true
    else false

/-- Whether the code point lies in one of the ranges, which are in ascending order. -/
def inRanges (ranges : Array (Nat × Nat)) (code : Nat) : Bool :=
  inRangesBetween ranges code (Nat.log2 ranges.size + 2) 0 ranges.size

end RowAccess.Text
