import Chunkwise.Console.Flag
import Chunkwise.Text.Quoted

/-!
The arguments of the program.
-/
namespace Chunkwise.Console

structure Arguments where
  /-- The file to evaluate. -/
  script : Option String := none
  /-- The path of the settings file. A separator attached to the flag counts as no texts at all,
  which is an empty list rather than nothing. -/
  config : Datum := .null
  verbose : Bool := false

/-- What the words of the command line come to. -/
inductive Command where
  | run (arguments : Arguments)
  | help
  | refusal (reason : String)

/-- The arguments so far, whether the place of the script is taken, and the words too many. -/
structure Gathered where
  arguments : Arguments := {}
  isFilled : Bool := false
  surplus : List String := []

namespace Gathered

def setConfig (text : String) (g : Gathered) : Gathered :=
  { g with arguments := { g.arguments with config := if text = "--" then .list [] else .str text } }

def setVerbose (g : Gathered) : Gathered :=
  { g with arguments := { g.arguments with verbose := true } }

def setScript (script : Option String) (g : Gathered) : Gathered :=
  { g with arguments := { g.arguments with script := script }, isFilled := true }

def addSurplus (texts : List String) (g : Gathered) : Gathered :=
  { g with surplus := g.surplus ++ texts }

/-- The command when all words are read. -/
def command (g : Gathered) : Command :=
  if g.surplus = [] then .run g.arguments
  else .refusal ("unrecognized arguments: " ++ " ".intercalate g.surplus)

end Gathered

/-- The refusal of a text that a flag cannot take. -/
def refuseAttached (flag : Flag) (attached : List Char) : Command :=
  let shown := String.ofList (Text.quoted attached)
  .refusal s!"argument {flag.label}: ignored explicit argument {shown}"

/-- Asking for help with short flags that share one dash: all of them must ask for it. -/
def askHelp : List Char → Command
  | [] => .help
  | 'h' :: rest => askHelp rest
  | attached => refuseAttached .help attached

/-- The texts of plain words. -/
def plainTexts (words : List Word) : List String :=
  words.filterMap fun
    | .plain text => some text
    | _ => none

/-- Acts on one word after another. Help ends the reading, whatever else would be wrong behind
it. -/
def gather (g : Gathered) : List Word → Command
  | [] => g.command
  | .plain text :: .separator :: rest =>
    if g.isFilled then
      (g.addSurplus (text :: "--" :: plainTexts rest)).command
    else ((g.setScript (some text)).addSurplus (plainTexts rest)).command
  | .plain text :: rest =>
    if g.isFilled then gather (g.addSurplus [text]) rest
    else gather (g.setScript (some text)) rest
  | .separator :: rest =>
    let texts := plainTexts rest
    if g.isFilled then (g.addSurplus ("--" :: texts)).command
    else ((g.setScript texts.head?).addSurplus (texts.drop 1)).command
  | .unknown text :: rest => gather (g.addSurplus [text]) rest
  | .flag .help isShort attached :: _ =>
    match isShort, attached with
    | _, none => .help
    | true, some text =>
      if text = "" then refuseAttached .help [] else askHelp text.toList
    | false, some text => refuseAttached .help text.toList
  | .flag .verbose _ none :: rest => gather g.setVerbose rest
  | .flag .verbose _ (some text) :: _ => refuseAttached .verbose text.toList
  | .flag .config _ (some text) :: rest => gather (g.setConfig text) rest
  | .flag .config _ none :: .plain text :: rest => gather (g.setConfig text) rest
  | .flag .config _ none :: _ => .refusal "argument --config: expected one argument"

/-- The command that the words of the command line give. -/
def readCommand (texts : List String) : Command :=
  match readWords texts with
  | .ok words => gather {} words
  | .error reason => .refusal reason

def usage : String :=
  "usage: pyeval_repl.py [-h] [--config CONFIG] [--verbose] [script]\n"

def help : String :=
  usage ++ "
Evaluate Python chunks with on-demand dependencies.

positional arguments:
  script           file to evaluate instead of starting the REPL

options:
  -h, --help       show this help message and exit
  --config CONFIG  YAML file with evaluator settings
  --verbose        log evaluator activity to stderr
"

/-- What the standard error gets when the words are refused. -/
def refusalText (reason : String) : String :=
  usage ++ "pyeval_repl.py: error: " ++ reason ++ "\n"

end Chunkwise.Console
