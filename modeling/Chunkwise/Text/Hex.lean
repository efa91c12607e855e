/-!
Numbers in base sixteen.
-/
namespace Chunkwise.Text

/-- The last digits of a number in base sixteen. -/
def hexDigits (width n : Nat) : List Char :=
  match width with
  | 0 => []
  | width + 1 => hexDigits width (n / 16) ++ [Nat.digitChar (n % 16)]

/-- The value of hexadecimal digits, of which there must be as many as asked. -/
def hexValue? (width : Nat) (cs : List Char) : Option Nat :=
  let ds := cs.take width
  let isHex (c : Char) : Bool := c.isDigit || ('a' ≤ c.toLower && c.toLower ≤ 'f')
  if ds.length = width ∧ ds.all isHex then
    some (ds.foldl (fun v c => 16 * v + if c.isDigit then c.toNat - 48 else c.toLower.toNat - 87) 0)
  else none

end Chunkwise.Text
