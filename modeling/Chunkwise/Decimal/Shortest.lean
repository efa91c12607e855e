import Chunkwise.Decimal.Double

/-!
The shortest decimal that reads back as a given double, and the notation that shows it.
-/
namespace Chunkwise.Decimal

/-- The whole number of times that a power of ten goes into a positive ratio, and whether it does
so exactly. -/
def gridFloor (num den : Nat) (power : Int) : Nat × Bool :=
  let (n, d) :=
    if 0 ≤ power then (num, den * Nat.pow 10 power.toNat)
    else (num * Nat.pow 10 (-power).toNat, den)
  (n / d, n % d == 0)

/-- Compares `digits · 10 ^ power` with a ratio. -/
def compareGrid (digits : Nat) (power : Int) (num den : Nat) : Ordering :=
  if 0 ≤ power then compare (digits * Nat.pow 10 power.toNat * den) num
  else compare (digits * den) (num * Nat.pow 10 (-power).toNat)

/-- The numbers that read as one positive double: those between two ratios over one
denominator, with or without the ends, around the double's own value. -/
structure Interval where
  low : Nat
  value : Nat
  high : Nat
  den : Nat
  closed : Bool
  deriving Repr

/-- The interval of a double. The lower neighbour of a power of two is only half as far. -/
def interval (m : Nat) (exponent : Int) : Interval :=
  let narrow := m = Nat.pow 2 52 ∧ -1074 < exponent
  let (unit, den) := scale2 1 4 exponent
  { low := (4 * m - if narrow then 1 else 2) * unit
    value := 4 * m * unit
    high := (4 * m + 2) * unit
    den := den
    closed := m % 2 = 0 }

def Interval.contains (i : Interval) (digits : Nat) (power : Int) : Bool :=
  match compareGrid digits power i.low i.den, compareGrid digits power i.high i.den with
  | .gt, .lt => true
  | .eq, _ | _, .eq => i.closed
  | _, _ => false

/-- Of the two neighbours of the value on the grid of a power of ten, the one that reads back;
of two the nearer, of two equally near ones the even. -/
def onGrid? (i : Interval) (power : Int) : Option Nat :=
  let (below, exact) := gridFloor i.value i.den power
  let above := below + 1
  if exact then some below
  else
    match i.contains below power, i.contains above power with
    | true, true =>
      match compareGrid (below + above) power (2 * i.value) i.den with
      | .lt => some above
      | .gt => some below
      | .eq => some (if below % 2 = 0 then below else above)
    | true, false => some below
    | false, true => some above
    | false, false => none

/-- Tries the grids from a coarse one down. -/
def firstGrid (i : Interval) : Nat → Int → Nat × Int
  | 0, power => ((gridFloor i.value i.den power).1, power)
  | tries + 1, power =>
    match onGrid? i power with
    | some digits => if digits = 0 then firstGrid i tries (power - 1) else (digits, power)
    | none => firstGrid i tries (power - 1)

/-- The digits and the power of ten of the shortest decimal for a positive double. The search
starts above the value's first digit; seventeen digits always suffice. -/
def shortest (m : Nat) (exponent : Int) : Nat × Int :=
  let i := interval m exponent
  let bits : Int := (m.log2 : Int) + exponent
  firstGrid i 22 (bits * 30103 / 100000 + 2)

/-- How a double is shown: positionally when the point stands at one of these places. -/
structure Notation where
  /-- The point may stand this far before the first digit. -/
  before : Int
  /-- The point may stand this far behind the first digit. -/
  behind : Int
  deriving Repr

/-- The positional notation ends at `1e-05` and at `1e+16`. -/
def notationOfValues : Notation := ⟨-4, 16⟩

/-- The text of a positive decimal. An exponent has its sign and at least two digits, and a
whole number keeps one zero behind the point. -/
def Notation.show (style : Notation) (digits : Nat) (power : Int) : String :=
  let ds := (Nat.toDigits 10 digits).reverse.dropWhile (· = '0') |>.reverse
  let zeros (n : Int) : List Char := List.replicate n.toNat '0'
  let point : Int := (Nat.toDigits 10 digits).length + power
  if style.before < point ∧ point ≤ style.behind then
    if point ≤ 0 then String.ofList ('0' :: '.' :: zeros (-point) ++ ds)
    else if ds.length ≤ point then
      String.ofList (ds ++ zeros (point - ds.length) ++ ['.', '0'])
    else String.ofList (ds.take point.toNat ++ '.' :: ds.drop point.toNat)
  else
    let exponent := point - 1
    let size := Nat.toDigits 10 exponent.natAbs
    let sign := if exponent < 0 then '-' else '+'
    let rest := if ds.length ≤ 1 then [] else '.' :: ds.drop 1
    String.ofList (ds.take 1 ++ rest ++ 'e' :: sign :: zeros (2 - size.length) ++ size)

/-- The shortest text that reads back. -/
def Double.show : Double → String
  | .nan => "nan"
  | .infinite negative => if negative then "-inf" else "inf"
  | .finite negative m exponent =>
    let body :=
      if m = 0 then "0.0"
      else
        let (digits, power) := shortest m exponent
        notationOfValues.show digits power
    if negative then "-" ++ body else body

end Chunkwise.Decimal
