/-!
Lines of a text, ended by a line feed or by a carriage return and a line feed.
-/
namespace Chunkwise.Text

/-- The lines between the line ends; there is always at least one. A carriage return that no
line feed follows is an ordinary character. -/
def lines : List Char → List (List Char)
  | [] => [[]]
  | '\r' :: '\n' :: rest => [] :: lines rest
  | c :: rest =>
    if c = '\n' then [] :: lines rest
    else
      match lines rest with
      | line :: more => (c :: line) :: more
      | [] => [[c]]

/-- The lines with a line feed between neighbours. -/
def unlines (ls : List (List Char)) : List Char :=
  ['\n'].intercalate ls

/-- The text with a line feed for every line end, also for a carriage return alone. -/
def withLineFeeds : List Char → List Char
  | [] => []
  | '\r' :: '\n' :: rest => '\n' :: withLineFeeds rest
  | c :: rest => (if c = '\r' then '\n' else c) :: withLineFeeds rest

/-- The text without one final line feed, when no other line feed is in it. -/
def singleLine? (t : List Char) : Option (List Char) :=
  let body := if t.getLast? = some '\n' then t.dropLast else t
  if body.contains '\n' then none else some body

/-- Ends a line of a shown text: line and page feeds, separators, the next-line character and the
Unicode separators of lines and paragraphs. -/
def breaksLine (c : Char) : Bool :=
  let n := c.toNat
  (10 ≤ n && n ≤ 13) || (28 ≤ n && n ≤ 30) || n == 0x85 || n == 0x2028 || n == 0x2029

/-- The lines of a shown text. A break at the end opens no further line. -/
def shownLines : List Char → List (List Char)
  | [] => []
  | '\r' :: '\n' :: rest => [] :: shownLines rest
  | c :: rest =>
    if breaksLine c then [] :: shownLines rest
    else
      match shownLines rest with
      | line :: more => (c :: line) :: more
      | [] => [[c]]

theorem lines_ne_nil (t : List Char) : lines t ≠ [] := by
  fun_cases lines t <;> simp [*]

end Chunkwise.Text
