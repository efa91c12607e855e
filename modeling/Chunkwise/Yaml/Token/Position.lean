import Chunkwise.Yaml.Token

/-!
Where the reading of a settings file stands: the characters to come, the blocks that are open and
the texts that may turn out to be keys.
-/
namespace Chunkwise.Yaml

/-- A text that is a key if a colon follows on its line: the number of tokens before it, whether
the layout needs it to be a key, and where it starts. -/
structure Candidate where
  place : Nat
  isNeeded : Bool
  index : Nat
  line : Nat
  col : Nat
  deriving Repr

structure Lexer where
  rest : List Char
  index : Nat := 0
  line : Nat := 0
  col : Nat := 0
  /-- How many brackets and braces are open. -/
  flow : Nat := 0
  /-- The indentation of the innermost block, and of those around it. -/
  indent : Int := -1
  indents : List Int := []
  /-- A key may start here. -/
  mayStartKey : Bool := true
  /-- The candidates by the number of brackets around them. -/
  candidates : List (Nat × Candidate) := []
  tokens : List Token := []

/-- A step of the lexer; none where the file is malformed. -/
abbrev Step := Lexer → Option Lexer

def isBreak (c : Char) : Bool :=
  c == '\n' || c == '\r' || c == '\u0085' || c == '\u2028' || c == '\u2029'

/-- Ends a word: a blank, a line end or the end of the file. -/
def endsWord : Option Char → Bool
  | none => true
  | some c => c == ' ' || c == '\t' || isBreak c

namespace Lexer

def peek (l : Lexer) (n : Nat) : Option Char :=
  l.rest[n]?

/-- Goes over one character. -/
def skip (l : Lexer) : Lexer :=
  match l.rest with
  | [] => l
  | c :: rest =>
    if isBreak c then { l with rest := rest, index := l.index + 1, line := l.line + 1, col := 0 }
    else { l with rest := rest, index := l.index + 1, col := l.col + 1 }

def skipMany (l : Lexer) : Nat → Lexer
  | 0 => l
  | n + 1 => l.skip.skipMany n

def add (token : Token) (l : Lexer) : Lexer :=
  { l with tokens := l.tokens ++ [token] }

def insertAt (place : Nat) (token : Token) (l : Lexer) : Lexer :=
  { l with tokens := l.tokens.insertIdx place token }

/-- Closes the blocks that are indented further. -/
def unwindTo (col : Int) (l : Lexer) : Lexer :=
  if l.flow ≠ 0 then l else go l.indents l
where
  go : List Int → Lexer → Lexer
    | [], l => l
    | outer :: more, l =>
      if col < l.indent then go more ({ l with indent := outer, indents := more }.add .blockEnd)
      else l

/-- Opens a block where the indentation grows; tells whether it does. -/
def openBlock (col : Nat) (l : Lexer) : Bool × Lexer :=
  if l.indent < col then (true, { l with indent := col, indents := l.indent :: l.indents })
  else (false, l)

/-- Gives up the candidate among the open brackets; one that is needed must not be given up. -/
def dropCandidate : Step := fun l =>
  match l.candidates.lookup l.flow with
  | some c =>
    if c.isNeeded then none
    else some { l with candidates := l.candidates.filter (·.1 ≠ l.flow) }
  | none => some l

/-- Gives up the candidates that no colon can follow any more. -/
def dropStale : Step := fun l =>
  let isStale (c : Candidate) : Bool := c.line != l.line || 1024 < l.index - c.index
  if l.candidates.any fun c => isStale c.2 && c.2.isNeeded then none
  else some { l with candidates := l.candidates.filter fun c => !isStale c.2 }

/-- Keeps what follows as a candidate for a key. -/
def keepCandidate : Step := fun l =>
  if l.mayStartKey then
    (dropCandidate l).map fun l =>
      let c : Candidate :=
        { place := l.tokens.length, isNeeded := l.flow == 0 && l.indent == (l.col : Int)
          index := l.index, line := l.line, col := l.col }
      { l with candidates := (l.flow, c) :: l.candidates }
  else some l

/-- Goes to the next token: over blanks, comments and line ends. -/
def skipBlanks : Nat → Lexer → Lexer
  | 0, l => l
  | n + 1, l =>
    match l.rest with
    | c :: _ =>
      if c = ' ' then skipBlanks n l.skip
      else if c = '#' then skipBlanks n (l.skipMany (l.rest.takeWhile (!isBreak ·)).length)
      else if isBreak c then
        skipBlanks n { l.skip with mayStartKey := l.mayStartKey || l.flow == 0 }
      else l
    | [] => l

/-- Three characters of one kind that stand for the bounds of a document. -/
def isBound (l : Lexer) (c : Char) : Bool :=
  l.rest.take 3 == [c, c, c] && endsWord (l.peek 3)

def isAnyBound (l : Lexer) : Bool :=
  l.isBound '-' || l.isBound '.'

/-- Takes a mark of one character. -/
def mark (token : Token) (l : Lexer) : Lexer :=
  l.skip.add token

end Lexer

end Chunkwise.Yaml
