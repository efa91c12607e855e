import Chunkwise.Text.Digit
import Chunkwise.Datum.Render

/-!
The words of the command line, told apart before any of them is acted on.
-/
namespace Chunkwise.Console
open Chunkwise.Text

inductive Flag where
  | help | config | verbose
  deriving DecidableEq, Repr

/-- The spellings of the flags, in the order in which messages name them. -/
def Flag.spellings : List (String × Flag) :=
  [("-h", .help), ("--help", .help), ("--config", .config), ("--verbose", .verbose)]

/-- A flag with all its spellings. -/
def Flag.label : Flag → String
  | .help => "-h/--help"
  | .config => "--config"
  | .verbose => "--verbose"

/-- A word of the command line. -/
inductive Word where
  | plain (text : String)
  /-- The first pair of dashes that stands alone; all words behind it are plain. -/
  | separator
  /-- A flag, spelled with one dash or two, with the text attached to it. -/
  | flag (flag : Flag) (isShort : Bool) (attached : Option String)
  /-- A word that looks like a flag and is none. -/
  | unknown (text : String)
  deriving DecidableEq, Repr

/-- A word before its first equals sign, and the text behind that. -/
def splitAttached (t : List Char) : List Char × Option String :=
  match t.dropWhile (· != '=') with
  | [] => (t, none)
  | _ :: attached => (t.takeWhile (· != '='), some (String.ofList attached))

/-- What a word may mean that spells no flag in full: with two dashes the beginning of a spelling,
with one a short flag and what is attached to it. -/
def readings (t : List Char) : List (String × Word) :=
  if ['-', '-'].isPrefixOf t then
    let (name, attached) := splitAttached t
    Flag.spellings.filterMap fun (spelling, flag) =>
      if name.isPrefixOf spelling.toList then some (spelling, .flag flag false attached) else none
  else
    Flag.spellings.filterMap fun (spelling, flag) =>
      if spelling.toList = t.take 2 then
        some (spelling, .flag flag true (some (String.ofList (t.drop 2))))
      else if t.isPrefixOf spelling.toList then some (spelling, .flag flag false none)
      else none

/-- A word with a dash that spells no flag in full. Where it can mean nothing, a negative number
and a word with a space in it are plain. -/
def readSuspect (text : String) : Except String Word :=
  let t := text.toList
  match readings t with
  | [] => .ok (if isNegativeNumber t || t.contains ' ' then .plain text else .unknown text)
  | [(_, word)] => .ok word
  | several =>
    .error s!"ambiguous option: {text} could match {commaSeparated (several.map Prod.fst)}"

/-- A word before the separator, or why it is none. A dash alone is plain. -/
def readWord (text : String) : Except String Word :=
  match text.toList with
  | '-' :: c :: rest =>
    let (name, attached) := splitAttached ('-' :: c :: rest)
    match Flag.spellings.lookup text, Flag.spellings.lookup (String.ofList name) with
    | some flag, _ => .ok (.flag flag (c != '-') none)
    | none, some flag => .ok (.flag flag (c != '-') attached)
    | none, none => readSuspect text
  | _ => .ok (.plain text)

/-- The words of the command line. -/
def readWords : List String → Except String (List Word)
  | [] => .ok []
  | text :: rest =>
    if text = "--" then .ok (.separator :: rest.map .plain)
    else
      match readWord text, readWords rest with
      | .ok word, .ok words => .ok (word :: words)
      | .error reason, _ => .error reason
      | .ok _, .error reason => .error reason

end Chunkwise.Console
