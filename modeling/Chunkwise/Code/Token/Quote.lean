import Chunkwise.Code.Token
import Chunkwise.Text.Hex

/-!
Reading string literals: where they end, and the characters that their escapes stand for.
-/
namespace Chunkwise.Code

/-- The marks before the quotes of a literal. -/
structure QuoteMarks where
  raw : Bool
  bytes : Bool
  deriving DecidableEq, Repr

/-- The marks that a word before a quote stands for. -/
def quoteMarks? (word : List Char) : Option QuoteMarks :=
  match String.ofList (word.map Char.toLower) with
  | "" | "u" => some ⟨false, false⟩
  | "r" => some ⟨true, false⟩
  | "b" => some ⟨false, true⟩
  | "br" | "rb" => some ⟨true, true⟩
  | _ => none

/-- The characters up to the closing quote and what follows it; an escaped character never closes.
Gives the characters alone when the line or the source ends before. -/
def untilQuote (quote : Char) : List Char → List Char × Option (List Char)
  | [] => ([], none)
  | '\\' :: c :: rest =>
    let (body, after) := untilQuote quote rest
    ('\\' :: c :: body, after)
  | c :: rest =>
    if c = quote then ([], some rest)
    else if c = '\n' then ([], none)
    else
      let (body, after) := untilQuote quote rest
      (c :: body, after)

/-- The characters up to three closing quotes and what follows them. -/
def untilTripleQuote (quote : Char) : List Char → List Char × Option (List Char)
  | [] => ([], none)
  | '\\' :: c :: rest =>
    let (body, after) := untilTripleQuote quote rest
    ('\\' :: c :: body, after)
  | c :: rest =>
    if c = quote ∧ [quote, quote].isPrefixOf rest then ([], some (rest.drop 2))
    else
      let (body, after) := untilTripleQuote quote rest
      (c :: body, after)

/-- The characters up to the closing quotes, one or three of them, and what follows those. -/
def untilQuotes (triple : Bool) (quote : Char) : List Char → List Char × Option (List Char) :=
  if triple then untilTripleQuote quote else untilQuote quote

/-- The character that a letter after a backslash stands for. -/
def simpleEscape? (c : Char) : Option Char :=
  match c with
  | '\\' | '\'' | '"' => some c
  | 'n' => some '\n'
  | 't' => some '\t'
  | 'r' => some '\r'
  | 'a' => some (Char.ofNat 7)
  | 'b' => some (Char.ofNat 8)
  | 'f' => some (Char.ofNat 12)
  | 'v' => some (Char.ofNat 11)
  | _ => none

/-- Up to three octal digits. -/
def octalDigits (cs : List Char) : List Char :=
  (cs.take 3).takeWhile fun c => '0' ≤ c && c ≤ '7'

/-- The characters that an escape stands for, after its backslash, and what follows it. An unknown
escape stands for itself, and one that is cut short has no meaning. -/
def escape? (bytes : Bool) (c : Char) (rest : List Char) : Option (List Char × List Char) :=
  match simpleEscape? c with
  | some e => some ([e], rest)
  | none =>
    let code (width : Nat) : Option (List Char × List Char) :=
      (Text.hexValue? width rest).map fun v => ([Char.ofNat v], rest.drop width)
    if c = '\n' then some ([], rest)
    else if c = 'x' then code 2
    else if c = 'u' ∧ ¬ bytes then code 4
    else if c = 'U' ∧ ¬ bytes then code 8
    else
      let octal := octalDigits (c :: rest)
      if octal ≠ [] then
        let v := octal.foldl (fun v d => 8 * v + (d.toNat - 48)) 0
        some ([Char.ofNat v], (c :: rest).drop octal.length)
      else some (['\\', c], rest)

/-- The characters that a literal's body stands for. -/
def unescape (bytes : Bool) : Nat → List Char → Option (List Char)
  | 0, _ => some []
  | _ + 1, [] => some []
  | n + 1, '\\' :: c :: rest =>
    (escape? bytes c rest).bind fun (cs, left) => (unescape bytes n left).map (cs ++ ·)
  | n + 1, c :: rest => (unescape bytes n rest).map (c :: ·)

/-- The literal with a body between its quotes. -/
def quoteLexeme (marks : QuoteMarks) (body : List Char) : Option Lexeme :=
  let chars := if marks.raw then some body else unescape marks.bytes body.length body
  chars.map fun cs =>
    if marks.bytes then .bytes (cs.map fun c => UInt8.ofNat c.toNat) else .str (String.ofList cs)

end Chunkwise.Code
