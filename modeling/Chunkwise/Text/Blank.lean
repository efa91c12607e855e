/-!
Blank characters, and texts without the blanks at their ends.
-/
namespace Chunkwise.Text

/-- The blanks: ASCII white space, the four information separators, the next-line and no-break
spaces and the Unicode space, line and paragraph separators. Zero-width characters are none. -/
def isBlank (c : Char) : Bool :=
  let n := c.toNat
  (9 ≤ n && n ≤ 13) || (28 ≤ n && n ≤ 32) || n == 0x85 || n == 0xA0 || n == 0x1680 ||
    (0x2000 ≤ n && n ≤ 0x200A) || n == 0x2028 || n == 0x2029 || n == 0x202F || n == 0x205F ||
    n == 0x3000

/-- The text without its leading blanks. -/
def trimStart (t : List Char) : List Char :=
  t.dropWhile isBlank

/-- The text without its trailing blanks. -/
def trimEnd (t : List Char) : List Char :=
  (t.reverse.dropWhile isBlank).reverse

/-- The text without the blanks at both ends. -/
def trim (t : List Char) : List Char :=
  trimEnd (trimStart t)

end Chunkwise.Text
