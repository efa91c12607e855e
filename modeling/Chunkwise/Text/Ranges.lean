/-!
Sets of code points given by the sorted list of places where membership changes.
-/
namespace Chunkwise.Text

/-- Adds to `found` the largest sum of distinct powers below `2 ^ bits` that stays within the
entries at most `n`; from zero, the number of those entries when there are fewer than `2 ^ bits`. -/
def rankFrom (flips : Array Nat) (n : Nat) : Nat → Nat → Nat
  | 0, found => found
  | bits + 1, found =>
    match flips[found + 2 ^ bits - 1]? with
    | some flip =>
      if flip ≤ n then rankFrom flips n bits (found + 2 ^ bits) else rankFrom flips n bits found
    | none => rankFrom flips n bits found

/-- Membership of `n` in the set that starts empty and changes at each of the sorted `flips`,
of which there are fewer than 2048. -/
def flippedAt (flips : Array Nat) (n : Nat) : Bool :=
  rankFrom flips n 11 0 % 2 == 1

end Chunkwise.Text
