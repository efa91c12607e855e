import Chunkwise.Text.Hex
import Chunkwise.Yaml.Token.Position

/-!
The texts of a settings file: without quotes, in quotes, or as indented lines of their own.
-/
namespace Chunkwise.Yaml.Lexer

/-- The character that a line end is in a text. -/
def lineEnd (c : Char) : Char :=
  if c == '\u2028' || c == '\u2029' then c else '\n'

/-! Texts without quotes. -/

/-- The character ends a piece of a text without quotes. -/
def endsPlain (flow : Nat) (c : Char) (next : Option Char) : Bool :=
  endsWord (some c) ||
    (c == ':' && (endsWord next || (flow != 0 && next.any (",[]\x7b\x7d".toList.contains ·)))) ||
    (flow != 0 && ",?[]\x7b\x7d".toList.contains c)

def plainPiece (flow : Nat) : List Char → List Char
  | [] => []
  | c :: rest => if endsPlain flow c rest.head? then [] else c :: plainPiece flow rest

/-- The line ends and blanks behind a line of a text, up to the bound of a document: the ends of
the empty lines, and whether such a bound was met. -/
def plainBreaks : Nat → List Char → Lexer → List Char × Bool × Lexer
  | 0, breaks, l => (breaks.reverse, false, l)
  | n + 1, breaks, l =>
    match l.rest with
    | c :: _ =>
      if c = ' ' then plainBreaks n breaks l.skip
      else if isBreak c then
        let l := l.skip
        let read := lineEnd c :: breaks
        if l.isAnyBound then (read.reverse, true, l) else plainBreaks n read l
      else (breaks.reverse, false, l)
    | [] => (breaks.reverse, false, l)

/-- A line end in a text: alone it is a blank, and of several the first is left out. -/
def folded (first : Char) (breaks : List Char) : List Char :=
  (if first == '\u2028' || first == '\u2029' then [first] else if breaks = [] then [' '] else []) ++
    breaks

/-- What stands between two pieces of a text; none ends the text. -/
def plainGap (l : Lexer) : Option (List Char) × Lexer :=
  let blanks := l.rest.takeWhile (· == ' ')
  let l := l.skipMany blanks.length
  match l.rest with
  | c :: _ =>
    if isBreak c then
      let l := { l.skip with mayStartKey := true }
      if l.isAnyBound then (none, l)
      else
        match plainBreaks l.rest.length [] l with
        | (_, true, l) => (none, l)
        | (breaks, false, l) => (some (folded c breaks), l)
    else (if blanks = [] then none else some blanks, l)
  | [] => (if blanks = [] then none else some blanks, l)

def plainText (indent : Int) : Nat → List Char → Lexer → List Char × Lexer
  | 0, read, l => (read, l)
  | n + 1, read, l =>
    if l.rest.head? = some '#' then (read, l)
    else
      let piece := plainPiece l.flow l.rest
      if piece = [] then (read, l)
      else
        let l := { l.skipMany piece.length with mayStartKey := false }
        match plainGap l with
        | (none, l) => (read ++ piece, l)
        | (some gap, l) =>
          if l.rest.head? = some '#' ∨ (l.flow = 0 ∧ (l.col : Int) < indent) then (read ++ piece, l)
          else
            match plainText indent n [] l with
            | ([], l) => (read ++ piece, l)
            | (more, l) => (read ++ piece ++ gap ++ more, l)

/-! Texts in quotes. -/

/-- What a character behind a backslash stands for. -/
def escape? (c : Char) : Option Char :=
  [('0', '\x00'), ('a', '\x07'), ('b', '\x08'), ('t', '\t'), ('\t', '\t'), ('n', '\n'),
    ('v', '\x0b'), ('f', '\x0c'), ('r', '\r'), ('e', '\x1b'), (' ', ' '), ('"', '"'), ('\\', '\\'),
    ('/', '/'), ('N', '\u0085'), ('_', '\u00a0'), ('L', '\u2028'), ('P', '\u2029')].lookup c

/-- The number of digits behind a letter that gives a character by its number. -/
def escapeDigits? (c : Char) : Option Nat :=
  [('x', 2), ('u', 4), ('U', 8)].lookup c

/-- The empty lines behind a line of a text in quotes. -/
def quotedBreaks : Nat → List Char → Lexer → Option (List Char × Lexer)
  | 0, _, _ => none
  | n + 1, breaks, l =>
    if l.isAnyBound then none
    else
      let l := l.skipMany (l.rest.takeWhile fun c => c == ' ' || c == '\t').length
      match l.rest with
      | c :: _ =>
        if isBreak c then
          quotedBreaks n (breaks ++ [lineEnd c]) l.skip
        else some (breaks, l)
      | [] => some (breaks, l)

/-- The blanks and line ends in a text in quotes. -/
def quotedGap (l : Lexer) : Option (List Char × Lexer) :=
  let blanks := l.rest.takeWhile fun c => c == ' ' || c == '\t'
  let l := l.skipMany blanks.length
  match l.rest with
  | [] => none
  | c :: _ =>
    if isBreak c then
      (quotedBreaks (l.rest.length + 1) [] l.skip).map fun (breaks, l) => (folded c breaks, l)
    else some (blanks, l)

/-- A character behind a backslash. -/
def escaped (l : Lexer) : Option (List Char × Lexer) :=
  match l.rest with
  | [] => none
  | c :: rest =>
    match escape? c, escapeDigits? c with
    | some e, _ => some ([e], l.skip)
    | none, some n =>
      (Text.hexValue? n rest).map fun code => ([Char.ofNat code], l.skipMany (n + 1))
    | none, none =>
      if isBreak c then quotedBreaks (l.rest.length + 1) [] l.skip else none

/-- The text up to the closing quote. -/
def quotedText (quote : Char) : Nat → List Char → Lexer → Option (List Char × Lexer)
  | 0, _, _ => none
  | n + 1, read, l =>
    match l.rest with
    | [] => none
    | c :: rest =>
      if c = quote then
        if quote = '\'' ∧ rest.head? = some '\'' then
          quotedText quote n (read ++ ['\'']) (l.skipMany 2)
        else some (read, l.skip)
      else if c = '\\' ∧ quote = '"' then
        match escaped l.skip with
        | some (chars, l) => quotedText quote n (read ++ chars) l
        | none => none
      else if endsWord (some c) then
        match quotedGap l with
        | some (gap, l) => quotedText quote n (read ++ gap) l
        | none => none
      else quotedText quote n (read ++ [c]) l.skip

/-! Texts as indented lines. -/

/-- What the signs behind the mark of such a text say: whether line ends at its end are kept, all
or none, and how far its lines are indented. -/
structure BlockHead where
  keeps : Option Bool := none
  increment : Option Nat := none

def blockSign? (c : Char) : Option Bool :=
  if c = '+' then some true else if c = '-' then some false else none

def blockDigit? (c : Char) : Option Nat :=
  if c.isDigit then some (c.toNat - '0'.toNat) else none

/-- The signs behind the mark, in either order, and the rest of their line. -/
def blockHead (l : Lexer) : Option (BlockHead × Lexer) :=
  let first := l.peek 0
  let second := l.peek 1
  let (head, n) : BlockHead × Nat :=
    match first.bind blockSign?, first.bind blockDigit? with
    | some keeps, _ =>
      match second.bind blockDigit? with
      | some d => (⟨some keeps, some d⟩, 2)
      | none => (⟨some keeps, none⟩, 1)
    | none, some d =>
      match second.bind blockSign? with
      | some keeps => (⟨some keeps, some d⟩, 2)
      | none => (⟨none, some d⟩, 1)
    | none, none => (⟨none, none⟩, 0)
  let l := l.skipMany n
  let endsHead := l.rest.head?.all fun c => c == ' ' || isBreak c
  let l := l.skipMany (l.rest.takeWhile (· == ' ')).length
  let comment := if l.rest.head? = some '#' then l.rest.takeWhile (!isBreak ·) else []
  let l := l.skipMany comment.length
  if head.increment = some 0 ∨ ¬ endsHead ∨ ¬ l.rest.head?.all isBreak then none
  else some (head, l.skip)

/-- The line ends before the first line of a text, and how far the blanks before it reach. -/
def blockIndentation : Nat → List Char → Nat → Lexer → List Char × Nat × Lexer
  | 0, breaks, most, l => (breaks, most, l)
  | n + 1, breaks, most, l =>
    match l.rest.head? with
    | some c =>
      if isBreak c then blockIndentation n (breaks ++ [lineEnd c]) most l.skip
      else if c = ' ' then blockIndentation n breaks (max most (l.col + 1)) l.skip
      else (breaks, most, l)
    | none => (breaks, most, l)

/-- Goes over the blanks before a line, up to its indentation. -/
def blockBlanks (indent : Nat) (l : Lexer) : Lexer :=
  l.skipMany (min (indent - l.col) (l.rest.takeWhile (· == ' ')).length)

/-- The line ends before the next line of a text. -/
def blockBreaks (indent : Nat) : Nat → List Char → Lexer → List Char × Lexer
  | 0, breaks, l => (breaks, l)
  | n + 1, breaks, l =>
    let l := blockBlanks indent l
    match l.rest.head? with
    | some c =>
      if isBreak c then blockBreaks indent n (breaks ++ [lineEnd c]) l.skip else (breaks, l)
    | none => (breaks, l)

/-- The lines of a text from its first on, with the line ends at its end. Where lines are joined, a
line end between two lines that start with no blank is a blank. -/
def blockLines (isJoined : Bool) (indent : Nat) :
    Nat → List Char → List Char → Lexer → List Char × List Char × List Char × Lexer
  | 0, read, breaks, l => (read, [], breaks, l)
  | n + 1, read, breaks, l =>
    let startsWithBlank (l : Lexer) : Bool := l.rest.head?.any fun c => c == ' ' || c == '\t'
    let line := l.rest.takeWhile (!isBreak ·)
    let isBlank := startsWithBlank l
    let l := l.skipMany line.length
    let ending := (l.rest.head?.map lineEnd).toList
    let (more, l) := blockBreaks indent (l.rest.length + 1) [] l.skip
    let read := read ++ breaks ++ line
    if l.col = indent ∧ ¬ l.rest.isEmpty then
      let joint :=
        if isJoined ∧ ending = ['\n'] ∧ ¬ isBlank ∧ ¬ startsWithBlank l then
          if more.isEmpty then [' '] else []
        else ending
      blockLines isJoined indent n (read ++ joint) more l
    else (read, ending, more, l)

/-- A text as indented lines, behind its mark. -/
def blockText (isJoined : Bool) (l : Lexer) : Option (List Char × Lexer) := do
  let (head, l) ← blockHead l
  let least := (max (l.indent + 1) 1).toNat
  let (breaks, indent, l) :=
    match head.increment with
    | none =>
      let (breaks, most, l) := blockIndentation (l.rest.length + 1) [] 0 l
      (breaks, max least most, l)
    | some d =>
      let indent := least + d - 1
      let (breaks, l) := blockBreaks indent (l.rest.length + 1) [] l
      (breaks, indent, l)
  let (read, ending, breaks, l) :=
    if l.col = indent ∧ ¬ l.rest.isEmpty then
      blockLines isJoined indent (l.rest.length + 1) [] breaks l
    else ([], [], breaks, l)
  let tail :=
    match head.keeps with
    | some false => []
    | none => ending
    | some true => ending ++ breaks
  return (read ++ tail, l)

end Chunkwise.Yaml.Lexer
