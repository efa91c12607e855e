import Chunkwise.Text.Lines

/-!
The lines of a source around one that failed, with a mark on the line and one below the column.
-/
namespace Chunkwise.Report
open Chunkwise.Text

/-- A number at the right end of a field. -/
def padded (width n : Nat) : List Char :=
  let digits := Nat.toDigits 10 n
  List.replicate (width - digits.length) ' ' ++ digits

/-- One line of the excerpt. -/
def numberedLine (width : Nat) (marked : Bool) (n : Nat) (line : List Char) : List Char :=
  (if marked then '>' else ' ') :: ' ' :: padded width n ++ " | ".toList ++ line

/-- The line below the marked one, with a caret under a column counted from one. A column before
the first is shown as the first. -/
def caretLine (width : Nat) (col : Int) : List Char :=
  ' ' :: ' ' :: List.replicate width ' ' ++ " | ".toList ++
    List.replicate (col - 1).toNat ' ' ++ ['^']

/-- The lines with numbers from the first to the last that are wanted, one of which may be
marked. -/
def rows (ls : List (List Char)) (first last : Int) (line : Option Int) (col : Option Int) :
    List (List Char) :=
  let width := (toString last).length
  (ls.zipIdx 1).flatMap fun (text, n) =>
    if first ≤ n ∧ n ≤ last then
      let marked := decide (line = some (n : Int))
      let row := numberedLine width marked n text
      match marked, col with
      | true, some c => [row, caretLine width c]
      | _, _ => [row]
    else []

/-- The lines from `line - radius` to `line + radius` that there are. A line outside the source
has no excerpt. -/
def excerpt (source : List Char) (line : Int) (col : Option Int) (radius : Int) : List Char :=
  let ls := shownLines source
  if line < 1 ∨ ls.length < line then []
  else unlines (rows ls (line - radius) (min (ls.length : Int) (line + radius)) (some line) col)

end Chunkwise.Report
