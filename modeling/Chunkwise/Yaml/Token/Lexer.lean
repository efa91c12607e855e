import Chunkwise.Yaml.Token.Text

/-!
From the characters of a settings file to its tokens. Indentation opens and closes blocks, and a
text turns out to be a key only when the colon behind it comes.
-/
namespace Chunkwise.Yaml

namespace Lexer

/-! Steps. -/

def takePlain : Step := fun l => do
  let l ← keepCandidate l
  let l := { l with mayStartKey := false }
  let (text, l) := plainText (l.indent + 1) (l.rest.length + 1) [] l
  return l.add (.scalar (String.ofList text) true)

def takeQuoted (quote : Char) : Step := fun l => do
  let l ← keepCandidate l
  let l := { l with mayStartKey := false }
  let (text, l) ← quotedText quote (l.rest.length + 1) [] l.skip
  return l.add (.scalar (String.ofList text) false)

/-- Takes a text as indented lines, behind which a key may start. -/
def takeBlock (isJoined : Bool) : Step := fun l => do
  let l ← dropCandidate { l with mayStartKey := true }
  let (text, l) ← blockText isJoined l.skip
  return l.add (.scalar (String.ofList text) false)

def takeOpening (token : Token) : Step := fun l => do
  let l ← keepCandidate l
  return { l with flow := l.flow + 1, mayStartKey := true }.mark token

def takeClosing (token : Token) : Step := fun l => do
  let l ← dropCandidate l
  if l.flow = 0 then none
  else return { l with flow := l.flow - 1, mayStartKey := false }.mark token

def takeComma : Step := fun l => do
  let l ← dropCandidate { l with mayStartKey := true }
  return l.mark .comma

/-- Opens a block for an item, a key or a value that stands at a column of its own. -/
def needBlock (token : Token) : Step := fun l =>
  if l.flow ≠ 0 then some l
  else if l.mayStartKey then
    match l.openBlock l.col with
    | (true, l) => some (l.add token)
    | (false, l) => some l
  else none

def takeEntry : Step := fun l => do
  let l ← needBlock .blockSequence l
  let l ← dropCandidate { l with mayStartKey := true }
  return l.mark .entry

def takeKey : Step := fun l => do
  let l ← needBlock .blockMapping l
  let l ← dropCandidate { l with mayStartKey := l.flow == 0 }
  return l.mark .key

/-- A colon makes the candidate before it a key. -/
def takeValue : Step := fun l => do
  match l.candidates.lookup l.flow with
  | some c =>
    let l := { l with candidates := l.candidates.filter (·.1 ≠ l.flow), mayStartKey := false }
    let l := l.insertAt c.place .key
    if l.flow ≠ 0 then return l.mark .value
    else
      match l.openBlock c.col with
      | (true, l) => return (l.insertAt c.place .blockMapping).mark .value
      | (false, l) => return l.mark .value
  | none =>
    let l ← needBlock .blockMapping l
    let l ← dropCandidate { l with mayStartKey := l.flow == 0 }
    return l.mark .value

/-- A mark that ends all blocks. -/
def takeBound (token : Token) (width : Nat) : Step := fun l => do
  let l ← dropCandidate (l.unwindTo (-1))
  return { l.skipMany width with mayStartKey := false }.add token

def isNameChar (c : Char) : Bool :=
  c.isAlphanum || c == '-' || c == '_'

/-- A directive: only its name is looked at, and the version that a file may ask for. -/
def takeDirective : Step := fun l => do
  let line := (l.rest.drop 1).takeWhile (!isBreak ·)
  let name := line.takeWhile isNameChar
  let after := line.drop name.length
  let version := (after.dropWhile (· == ' ')).takeWhile (fun c => !endsWord (some c))
  let isRefused := name = "YAML".toList ∧ version.take 2 ≠ ['1', '.']
  if name = [] ∨ ¬ endsWord after.head? ∨ isRefused then none
  else takeBound .directive (line.length + 1) l

/-- A name behind a star or an ampersand. -/
def takeName (token : String → Token) : Step := fun l => do
  let l ← keepCandidate l
  let name := (l.rest.drop 1).takeWhile isNameChar
  let next := l.peek (name.length + 1)
  if name = [] ∨ ¬ (endsWord next ∨ next.any ("?:,]\x7d%@".toList.contains ·)) then none
  else
    return { l.skipMany (name.length + 1) with mayStartKey := false }.add
      (token (String.ofList name))

def takeTag : Step := fun l => do
  let l ← keepCandidate l
  let text := l.rest.takeWhile fun c => !endsWord (some c)
  return { l.skipMany text.length with mayStartKey := false }.add (.tag (String.ofList text))

/-- A text without quotes starts here. -/
def startsPlain (l : Lexer) (c : Char) : Bool :=
  (!endsWord (some c) && !"-?:,[]\x7b\x7d#&*!|>'\"%@\x60".toList.contains c) ||
    (!endsWord (l.peek 1) && (c == '-' || (l.flow == 0 && (c == '?' || c == ':'))))

/-- The next token. -/
def takeToken (c : Char) : Step := fun l =>
  let endsHere := endsWord (l.peek 1)
  if c = '%' ∧ l.col = 0 then takeDirective l
  else if l.col = 0 ∧ l.isBound '-' then takeBound .documentStart 3 l
  else if l.col = 0 ∧ l.isBound '.' then takeBound .documentEnd 3 l
  else if c = '[' then takeOpening .openSequence l
  else if c = '\x7b' then takeOpening .openMapping l
  else if c = ']' then takeClosing .closeSequence l
  else if c = '\x7d' then takeClosing .closeMapping l
  else if c = ',' then takeComma l
  else if c = '-' ∧ endsHere then takeEntry l
  else if c = '?' ∧ (l.flow ≠ 0 ∨ endsHere) then takeKey l
  else if c = ':' ∧ (l.flow ≠ 0 ∨ endsHere) then takeValue l
  else if c = '*' then takeName .alias l
  else if c = '&' then takeName .anchor l
  else if c = '!' then takeTag l
  else if (c = '|' ∨ c = '>') ∧ l.flow = 0 then takeBlock (c = '>') l
  else if c = '\'' ∨ c = '"' then takeQuoted c l
  else if l.startsPlain c then takePlain l
  else none

/-- All tokens. Each step takes at least one character. -/
def takeAll : Nat → Step
  | 0, _ => none
  | n + 1, l => do
    let l ← dropStale (skipBlanks l.rest.length l)
    let l := l.unwindTo l.col
    match l.rest with
    | [] => dropCandidate (l.unwindTo (-1))
    | c :: _ => takeAll n (← takeToken c l)

end Lexer

/-- A character that may stand in a file. -/
def isPrintable (c : Char) : Bool :=
  let n := c.toNat
  n == 9 || n == 10 || n == 13 || (0x20 ≤ n && n ≤ 0x7e) || n == 0x85 || (0xa0 ≤ n && n ≤ 0xd7ff) ||
    (0xe000 ≤ n && n ≤ 0xfffd) || 0x10000 ≤ n

/-- The tokens of a file; none if it is malformed. -/
def tokens? (text : List Char) : Option (List Token) :=
  let body := if text.head? = some '\ufeff' then text.drop 1 else text
  if text.all isPrintable then
    (Lexer.takeAll (body.length + 1) { rest := body }).map (·.tokens)
  else none

end Chunkwise.Yaml
