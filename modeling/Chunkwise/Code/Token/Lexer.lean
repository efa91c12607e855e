import Chunkwise.Code.Token.Number
import Chunkwise.Code.Token.Quote
import Chunkwise.Text.Identifier
import Chunkwise.Text.Printable

/-!
The tokens of a source. Indentation makes tokens of its own, except inside brackets; blank lines
and comments make none.
-/
namespace Chunkwise.Code
open Chunkwise.Text

/-- The source with each line end written as one line feed, and one at its end. -/
def normalizeLines : List Char → List Char
  | [] => ['\n']
  | ['\n'] => ['\n']
  | '\r' :: '\n' :: rest => if rest = [] then ['\n'] else '\n' :: normalizeLines rest
  | c :: rest =>
    if c = '\r' then (if rest = [] then ['\n'] else '\n' :: normalizeLines rest)
    else c :: normalizeLines rest

/-- The place behind some characters. -/
def Pos.after (pos : Pos) (cs : List Char) : Pos :=
  cs.foldl (fun p c => if c = '\n' then ⟨p.line + 1, 0⟩ else ⟨p.line, p.col + 1⟩) pos

/-- What is left of a source, where that starts, and what is open there: the widths of the
indented blocks, counted with wide and with narrow tabs, and the brackets, innermost first. -/
structure Lexer where
  rest : List Char
  pos : Pos
  /-- The place behind the last line feed, on the line that it ends. -/
  lineEnd : Pos
  indents : List (Nat × Nat)
  brackets : List Bracket

namespace Lexer

def token (l : Lexer) (lexeme : Lexeme) : Token :=
  ⟨lexeme, l.pos, l.pos.col + 1⟩

/-- A token that no character stands for; a complaint names the last column read. -/
def emptyToken (l : Lexer) (lexeme : Lexeme) : Token :=
  ⟨lexeme, l.pos, l.pos.col⟩

def advance (l : Lexer) (read rest : List Char) : Lexer :=
  { l with rest := rest, pos := l.pos.after read }

/-- Behind the line feed that comes next. -/
def nextLine (l : Lexer) : Lexer :=
  { l with
    rest := l.rest.drop 1
    pos := ⟨l.pos.line + 1, 0⟩
    lineEnd := ⟨l.pos.line, l.pos.col + 1⟩ }

def close (l : Lexer) (ending : Ending) (stop : Token) : Tokens :=
  ⟨[stop], ending, l.brackets.head?⟩

/-- Characters that make no token; the column is that of the last one read. -/
def refuse (l : Lexer) (message : String) (col : Nat) : Tokens :=
  l.close (.refused { message := message, line := l.pos.line, col := col }) (l.token .stuck)

/-- A fault of layout on the line that starts here. -/
def misplace (l : Lexer) (kind : Fault.Kind) (message : String) (col : Nat) : Tokens :=
  l.close (.misplaced ⟨kind, message, l.pos.line, col⟩) (l.token .stuck)

/-- The end of the source: the complaint if something is open there. -/
def endsOpen (l : Lexer) : Tokens :=
  let complaint :=
    match l.brackets with
    | b :: _ => b.neverClosed
    | [] =>
      { message := "unexpected EOF while parsing", line := l.lineEnd.line, col := l.lineEnd.col }
  l.close (.misplaced complaint) ⟨.stuck, l.lineEnd, l.lineEnd.col⟩

end Lexer

def addToken (token : Token) (tokens : Tokens) : Tokens :=
  { tokens with tokens := token :: tokens.tokens }

/-- The blanks at the start of a line: their width with wide and with narrow tabs, and what
follows them. A form feed starts the count anew. -/
def indentation : Nat × Nat → List Char → (Nat × Nat) × List Char × List Char
  | width, [] => (width, [], [])
  | (wide, narrow), c :: rest =>
    let go (width : Nat × Nat) :=
      let (w, read, after) := indentation width rest
      (w, c :: read, after)
    if c = ' ' then go (wide + 1, narrow + 1)
    else if c = '\t' then go ((wide / 8 + 1) * 8, narrow + 1)
    else if c = Char.ofNat 12 then go (0, 0)
    else ((wide, narrow), [], c :: rest)

/-- Closes the blocks that are wider than a line's indentation and counts them. -/
def closeBlocks (wide : Nat) : List (Nat × Nat) → Nat × List (Nat × Nat)
  | [] => (0, [])
  | (w, n) :: outer =>
    if wide < w then
      let (count, left) := closeBlocks wide outer
      (count + 1, left)
    else (0, (w, n) :: outer)

def inconsistentTabs : String := "inconsistent use of tabs and spaces in indentation"

/-- The tokens that the indentation of a line makes, and the blocks that are open then. -/
def layout (wide narrow : Nat) (indents : List (Nat × Nat)) :
    Except (Fault.Kind × String) (List Lexeme × List (Nat × Nat)) :=
  let (w, n) := indents.headD (0, 0)
  if wide = w then
    if narrow = n then .ok ([], indents) else .error (.tabError, inconsistentTabs)
  else if w < wide then
    if 99 ≤ indents.length then .error (.indentationError, "too many levels of indentation")
    else if narrow ≤ n then .error (.tabError, inconsistentTabs)
    else .ok ([.indent], (wide, narrow) :: indents)
  else
    let (count, left) := closeBlocks wide indents
    let (w, n) := left.headD (0, 0)
    if wide ≠ w then
      .error (.indentationError, "unindent does not match any outer indentation level")
    else if narrow ≠ n then .error (.tabError, inconsistentTabs)
    else .ok (List.replicate count .dedent, left)

def threeMarks : List String := ["**=", "//=", ">>=", "<<=", "..."]

def twoMarks : List String :=
  ["!=", "<>", "**", "//", "->", ":=", "==", "<=", ">=", "<<", ">>", "+=", "-=", "*=", "/=", "%=",
    "&=", "|=", "^=", "@="]

/-- The longest mark at the start of a text. -/
def longestMark (c : Char) (rest : List Char) : String :=
  let three := String.ofList (c :: rest.take 2)
  let two := String.ofList (c :: rest.take 1)
  if three ∈ threeMarks then three else if two ∈ twoMarks then two else String.singleton c

def closes (opening closing : Char) : Bool :=
  (opening, closing) ∈ [('(', ')'), ('[', ']'), ('{', '}')]

/-- A code point in at least four hexadecimal digits. -/
def codePoint (c : Char) : String :=
  let ds := (Nat.toDigits 16 c.toNat).map Char.toUpper
  String.ofList (List.replicate (4 - ds.length) '0' ++ ds)

/-- The first character that a word may not hold, with the number of characters before it. -/
def wrongNameChar (word : List Char) : Option (Char × Nat) :=
  match word with
  | [] => none
  | c :: rest =>
    if ¬ isNameStart c then some (c, 0)
    else (rest.zipIdx 1).find? fun (c, _) => ¬ isNamePart c

/-- The name that a word makes. -/
def nameToken (l : Lexer) (word : List Char) : Except Tokens Token :=
  match wrongNameChar word with
  | none => .ok (l.token (.name (String.ofList word)))
  | some (c, n) =>
    let message :=
      if isPrintable c then s!"invalid character '{c}' (U+{codePoint c})"
      else s!"invalid non-printable character U+{codePoint c}"
    .error (l.refuse message (l.pos.col + n + 1))

/-- The string literal after a word of marks, and the lexer behind it. -/
def quoteToken (l : Lexer) (word : List Char) (marks : QuoteMarks) (quote : Char)
    (rest : List Char) : Except Tokens (Token × Lexer) :=
  let triple := [quote, quote].isPrefixOf rest
  let quotes := List.replicate (if triple then 3 else 1) quote
  let inside := if triple then rest.drop 2 else rest
  let (body, after) := untilQuotes triple quote inside
  match after with
  | some left =>
    match quoteLexeme marks body with
    | some lexeme => .ok (l.token lexeme, l.advance (word ++ quotes ++ body ++ quotes) left)
    | none => .error (l.refuse "(unicode error) malformed escape" (l.pos.col + 1))
  | none =>
    let stop := l.pos.after (word ++ quotes ++ body)
    let line := if triple ∨ body.length = inside.length then stop.line - 1 else stop.line
    let kind := if triple then "triple-quoted string literal" else "string literal"
    .error (l.refuse s!"unterminated {kind} (detected at line {line})" (l.pos.col + 1))

/-- The most brackets that may be open at once. -/
def bracketLimit : Nat := 200

/-- The mark that starts here, and the lexer behind it. Brackets are paired. -/
def markToken (l : Lexer) (c : Char) (rest : List Char) : Except Tokens (Token × Lexer) :=
  let mark := longestMark c rest
  let next := l.advance mark.toList (rest.drop (mark.length - 1))
  if c = '(' ∨ c = '[' ∨ c = '{' then
    if bracketLimit ≤ l.brackets.length then
      .error (l.refuse "too many nested parentheses" (l.pos.col + 1))
    else .ok (l.token (.mark mark), { next with brackets := ⟨c, l.pos⟩ :: l.brackets })
  else if c = ')' ∨ c = ']' ∨ c = '}' then
    match l.brackets with
    | [] => .error (l.refuse s!"unmatched '{c}'" (l.pos.col + 1))
    | b :: outer =>
      if closes b.char c then .ok (l.token (.mark mark), { next with brackets := outer })
      else
        let line := if b.pos.line = l.pos.line then "" else s!" on line {b.pos.line}"
        .error ({ l with brackets := outer }.refuse
          s!"closing parenthesis '{c}' does not match opening parenthesis '{b.char}'{line}"
          (l.pos.col + 1))
  else if isPrintable c then .ok (l.token (.mark mark), next)
  else .error (l.refuse s!"invalid non-printable character U+{codePoint c}" (l.pos.col + 1))

def isSpace (c : Char) : Bool :=
  c == ' ' || c == '\t' || c == Char.ofNat 12

/-- The token that starts at a character other than a space, a comment or a line feed. -/
def scanToken (l : Lexer) (c : Char) (rest : List Char) : Except Tokens (Token × Lexer) :=
  let word := if c.isDigit then [] else l.rest.takeWhile mayBeNamePart
  let after := l.rest.drop word.length
  match quoteMarks? word, after with
  | some marks, q :: inside =>
    if q = '\'' ∨ q = '"' then quoteToken l word marks q inside else other word after
  | _, _ => other word after
where
  other (word after : List Char) : Except Tokens (Token × Lexer) :=
    if word ≠ [] then (nameToken l word).map fun token => (token, l.advance word after)
    else if c.isDigit ∨ (c = '.' ∧ rest.head?.any Char.isDigit) then
      match scanNumber l.rest with
      | .ok (lexeme, left) =>
        .ok (l.token lexeme, l.advance (l.rest.take (l.rest.length - left.length)) left)
      | .error (message, read) => .error (l.refuse message (l.pos.col + read))
    else markToken l c rest

/-- Where a lexer stands in its line. -/
inductive LinePart where
  | start
  /-- In a line without tokens, which makes no token at its end either. -/
  | blank
  | text
  deriving DecidableEq, Repr

def strayContinuation : String := "unexpected character after line continuation character"

/-- What a lexer does next: it ends, or makes some tokens and goes on from another place. -/
inductive Turn where
  | ends (tokens : Tokens)
  | goesOn (made : List Token) (part : LinePart) (next : Lexer)

/-- Makes the tokens of a line's layout. At the end of the source a complaint names the end of the
last line. -/
def openLine (width : Nat × Nat) (l : Lexer) : Turn :=
  match layout width.1 width.2 l.indents with
  | .ok (lexemes, indents) =>
    let place := if l.rest = [] then { l with pos := l.lineEnd } else l
    .goesOn (lexemes.map place.emptyToken) .text { l with indents := indents }
  | .error (kind, message) =>
    let width := l.pos.col + (l.rest.takeWhile (· ≠ '\n')).length
    .ends (l.misplace kind message (if kind = .tabError then 1 else width + 1))

/-- What comes at the start of a line. -/
def turnAtStart (l : Lexer) : Turn :=
  let ((wide, narrow), read, after) := indentation (0, 0) l.rest
  let inner := l.advance read after
  match after with
  | [] => if l.brackets = [] then openLine (0, 0) inner else .ends inner.endsOpen
  | '\\' :: '\n' :: more =>
    let joined := { inner with rest := '\n' :: more, pos := ⟨inner.pos.line, inner.pos.col + 1⟩ }
    let next := joined.nextLine
    if more = [] then .ends next.endsOpen
    else if wide = 0 then .goesOn [] .start next
    else
      let blanks := more.takeWhile isSpace
      let inside := next.advance blanks (more.dropWhile isSpace)
      if l.brackets ≠ [] ∨ inside.rest.head?.any (fun c => c == '#' || c == '\n') then
        .goesOn [] .blank inside
      else openLine (wide, wide) inside
  | '\\' :: _ => .ends (inner.misplace .syntaxError strayContinuation (inner.pos.col + 2))
  | c :: _ =>
    if l.brackets ≠ [] ∨ c = '#' ∨ c = '\n' then .goesOn [] .blank inner
    else openLine (wide, narrow) inner

/-- What comes behind the start of a line. -/
def turnInLine (part : LinePart) (l : Lexer) : Turn :=
  match l.rest with
  | [] =>
    if l.brackets = [] then .ends (l.close .finished ⟨.done, l.lineEnd, l.lineEnd.col⟩)
    else .ends l.endsOpen
  | c :: rest =>
    if isSpace c then .goesOn [] part (l.advance [c] rest)
    else if c = '#' then
      let comment := l.rest.takeWhile (· ≠ '\n')
      .goesOn [] part (l.advance comment (l.rest.drop comment.length))
    else if c = '\n' then
      if part = .blank ∨ l.brackets ≠ [] then .goesOn [] .start l.nextLine
      else .goesOn [l.token .newline] .start l.nextLine
    else if c = '\\' then
      match rest with
      | '\n' :: more =>
        let joined := { l with rest := rest, pos := ⟨l.pos.line, l.pos.col + 1⟩ }
        if more = [] then .ends joined.nextLine.endsOpen else .goesOn [] part joined.nextLine
      | _ => .ends (l.misplace .syntaxError strayContinuation (l.pos.col + 2))
    else
      match scanToken l c rest with
      | .ok (token, next) => .goesOn [token] .text next
      | .error stop => .ends stop

def turn : LinePart → Lexer → Turn
  | .start, l => turnAtStart l
  | part, l => turnInLine part l

/-- The tokens from a place on. Each turn reads at least one character or leaves the start of a
line, so twice the length of the source is enough. -/
def lexFrom : Nat → LinePart → Lexer → Tokens
  | 0, _, l => l.endsOpen
  | n + 1, part, l =>
    match turn part l with
    | .ends tokens => tokens
    | .goesOn made part next => made.foldr addToken (lexFrom n part next)

/-- The tokens of a source. -/
def tokens (source : List Char) : Tokens :=
  let chars := normalizeLines source
  lexFrom (2 * chars.length + 2) .start
    { rest := chars, pos := ⟨1, 0⟩, lineEnd := ⟨1, 0⟩, indents := [], brackets := [] }

end Chunkwise.Code
