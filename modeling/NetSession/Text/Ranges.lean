/-!
# Tables of ranges

Classes of characters as tables of ranges in increasing order, which are searched by bisection.
-/

namespace NetSession.Text

/-- Whether `n` lies in one of the increasing `ranges`, by bisection of the part from `low` up to
`high` in at most `fuel` halvings. -/
def inRangesFrom (ranges : Array (Nat × Nat)) (n : Nat) : Nat → Nat → Nat → Bool
  | 0, _, _ => false
  | fuel + 1, low, high =>
    if high ≤ low then false
    else
      let middle := (low + high) / 2
      match ranges[middle]? with
      | none => false
      | some (first, last) =>
        if n < first then inRangesFrom ranges n fuel low middle
        else if last < n then inRangesFrom ranges n fuel (middle + 1) high
        else true

/-- Whether `n` lies in one of the increasing `ranges`. -/
def inRanges (ranges : Array (Nat × Nat)) (n : Nat) : Bool :=
  inRangesFrom ranges n (ranges.size + 1) 0 ranges.size

end NetSession.Text
