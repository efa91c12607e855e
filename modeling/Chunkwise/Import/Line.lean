import Chunkwise.Text.Blank
import Chunkwise.Text.Word
import Chunkwise.Text.Lines

/-!
The imports that one line of a chunk declares. Two shapes count, `import` with a list and
`from … import`; any other line declares nothing and is left to the reader of the chunk.
-/
namespace Chunkwise.Import
open Chunkwise.Text

/-- What a line asks for. -/
inductive Declaration where
  /-- A top-level package. -/
  | package (root : String)
  /-- A module beside the chunk's own. -/
  | relative (path : String)
  /-- The heavy library, by its plain import. -/
  | heavy (name : String)
  deriving DecidableEq, Repr

/-- The line up to its first `#`. -/
def withoutComment (line : List Char) : List Char :=
  line.takeWhile (· ≠ '#')

/-- The text after a keyword at its start and the blanks behind it, of which there must be one. -/
def afterKeyword? (keyword : String) (t : List Char) : Option (List Char) := do
  let rest ← keyword.toList.isPrefixOf? t
  if (rest.head?.any isBlank) then some (trimStart rest) else none

/-- The list of a line `import list`. -/
def importList? (line : List Char) : Option (List Char) := do
  let body ← afterKeyword? "import" (trimStart line)
  if body = [] then none else singleLine? body

/-- An item without its ` as name`. The last blank-free run is the new name, so of
`a as b as c` only ` as c` goes. -/
def withoutAlias (item : List Char) : List Char :=
  let name := item.reverse.takeWhile isWord
  let before := item.reverse.dropWhile isWord
  if name = [] ∨ ¬ before.head?.any isBlank then item
  else
    match before.dropWhile isBlank with
    | s :: a :: rest =>
      if (s = 's' ∨ s = 'S' ∨ s = 'ſ') ∧ (a = 'a' ∨ a = 'A') ∧ rest.head?.any isBlank then
        (rest.dropWhile isBlank).reverse
      else item
    | _ => item

/-- The declaration of a path that starts with a point, or of the first segment of another. -/
def ofPath? (path : List Char) : Option Declaration :=
  if path.head? = some '.' then some (.relative (String.ofList path))
  else
    let root := trim (path.takeWhile (· ≠ '.'))
    if root = [] then none else some (.package (String.ofList root))

/-- The declarations of a list's items; an item of blanks alone is none. -/
def ofList (list : List Char) : List Declaration :=
  (list.splitOn ',').filterMap fun part =>
    let item := trim part
    if item = [] then none else ofPath? (withoutAlias item)

/-- What follows `import` in a `from` line is a name on the line: a text that starts after a
blank, where a blank too may be that text. -/
def isImported (tail : List Char) : Bool :=
  let blanks := tail.takeWhile isBlank
  let names := tail.dropWhile isBlank
  if names = [] then
    let inner := if blanks.getLast? = some '\n' then blanks.dropLast else blanks
    decide (2 ≤ inner.length ∧ inner.getLast? ≠ some '\n')
  else decide (blanks ≠ []) && (singleLine? names).isSome

/-- The module of a line `from module import names`. -/
def fromModule? (line : List Char) : Option (List Char) := do
  let body ← afterKeyword? "from" (trimStart line)
  let inPath (c : Char) : Bool := isWord c || c == '.'
  let path := body.takeWhile inPath
  let rest := body.dropWhile inPath
  if path = [] ∨ ¬ rest.head?.any isBlank then none
  else
    let tail ← "import".toList.isPrefixOf? (trimStart rest)
    if isImported tail then some path else none

/-- The line is the heavy library's plain import. -/
def isHeavyLine (heavy line : List Char) : Bool :=
  trim line == "import ".toList ++ heavy

/-- The declarations of a line, in order. The heavy library's plain import has no comment. -/
def declarations (heavy line : List Char) : List Declaration :=
  if isHeavyLine heavy line then [.heavy (String.ofList heavy)]
  else
    let code := withoutComment line
    match importList? code with
    | some list => ofList list
    | none => ((fromModule? code).bind ofPath?).toList

end Chunkwise.Import
