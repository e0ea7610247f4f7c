/-!
# Tables of code point ranges

A set of code points is stored as the increasing sequence `lo, hi, lo, hi, …` of its closed
ranges, and membership is a binary search for the first range that ends at or after the code point.
-/

namespace BotSentry.Text

/-- The least index of `[lo, hi)` at which the monotone test `p` holds, and `hi` if there is none;
`fuel` bounds the number of halvings. -/
def firstIndex (p : Nat → Bool) : Nat → Nat → Nat → Nat
  | 0, lo, _ => lo
  | fuel + 1, lo, hi =>
    if lo < hi then
      if p ((lo + hi) / 2) then firstIndex p fuel lo ((lo + hi) / 2)
      else firstIndex p fuel ((lo + hi) / 2 + 1) hi
    else lo

/-- Whether `c` lies in one of the ranges of `table`. -/
def inRanges (table : Array Nat) (c : Nat) : Bool :=
  let i := firstIndex (fun i => c ≤ table.getD (2 * i + 1) 0) table.size 0 (table.size / 2)
  match table[2 * i]? with
  | some lo => lo ≤ c
  | none => false

end BotSentry.Text
