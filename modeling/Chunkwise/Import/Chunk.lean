import Chunkwise.Text.Sorted
import Chunkwise.Import.Line

/-!
What the imports of a chunk ask for, and the chunk without the plain imports of the heavy
library, which are satisfied outside the interpreter.
-/
namespace Chunkwise.Import
open Chunkwise.Text

/-- The outcome of looking through a chunk. -/
structure Scan where
  /-- The chunk's lines that are kept, joined by line feeds. -/
  source : String
  /-- The packages to be found before the chunk runs, in increasing order. -/
  roots : List String
  /-- A plain import of the heavy library was taken out. -/
  heavy : Bool
  deriving DecidableEq, Repr

/-- The lines that stay in the chunk. -/
def keptLines (heavy : List Char) (chunk : List Char) : List (List Char) :=
  (lines chunk).filter fun line => !isHeavyLine heavy line

/-- The package that a declaration needs found. The heavy library is none of them. -/
def Declaration.wanted? (heavy : List Char) : Declaration → Option String
  | .package root => if root.toList = heavy then none else some root
  | .relative _ | .heavy _ => none

/-- The packages that the lines need, with repetitions. -/
def wanted (heavy : List Char) (ls : List (List Char)) : List String :=
  ls.flatMap fun line => (declarations heavy line).filterMap (·.wanted? heavy)

/-- Looks through a chunk line by line. -/
def scan (heavy chunk : String) : Scan :=
  let kept := keptLines heavy.toList chunk.toList
  { source := String.ofList (unlines kept)
    roots := sortedSet (wanted heavy.toList kept)
    heavy := (lines chunk.toList).any (isHeavyLine heavy.toList) }

/-- The package of a declaration. -/
def Declaration.package? : Declaration → Option String
  | .package root => some root
  | .relative _ | .heavy _ => none

/-- Looks through a chunk for a heavy library that has a spelling in its plain import but no name:
no package is taken for it. -/
def scanSpelling (spelling chunk : String) : Scan :=
  let kept := keptLines spelling.toList chunk.toList
  let packages := kept.flatMap fun line =>
    (declarations spelling.toList line).filterMap (·.package?)
  { scan spelling chunk with roots := sortedSet packages }

end Chunkwise.Import
