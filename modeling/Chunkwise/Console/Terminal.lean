import Chunkwise.Session.Schedule
import Chunkwise.Settings.File

/-!
A terminal: a session, what it shows of the journal, and the two outputs.
-/
namespace Chunkwise.Console

/-- How a program ends. -/
inductive Ending where
  | returned
  /-- With a status that it asked for. -/
  | exited (status : Datum)
  | refused (refusal : Settings.Refusal)
  /-- The bound of an evaluation was too small. -/
  | unfinished

/-- The ending of a program that a fault leaves. -/
def Ending.ofFault (fault : Fault) : Ending :=
  if fault.kind.isA .systemExit then
    match fault.args with
    | [] => .exited .null
    | [status] => .exited status
    | several => .exited (.tuple several)
  else .refused (.fault fault)

/-- The standard output is a part of the session's world. -/
structure Terminal where
  session : Session
  /-- All of the journal is shown, with levels and authors. -/
  isVerbose : Bool := false
  /-- What was written to the standard error. -/
  errors : String := ""

namespace Terminal

/-- Writes to the standard output. -/
def print (text : String) (t : Terminal) : Terminal :=
  { t with session := t.session.mapWorld fun w => { w with written := w.written ++ text } }

/-- Writes a line to the standard error. -/
def complain (line : String) (t : Terminal) : Terminal :=
  { t with errors := t.errors ++ line ++ "\n" }

/-- Shows an entry of the journal, unless it is too quiet for that. -/
def showEntry (t : Terminal) (entry : World.Entry) : Terminal :=
  if t.isVerbose then t.complain entry.line
  else if entry.level.isLoud then t.complain entry.message
  else t

/-- Does something with the session, and shows what came into the journal meanwhile. -/
def act {α : Type} (action : Session → α × Session) (t : Terminal) : α × Terminal :=
  match action t.session with
  | (result, s) =>
    (result, (s.world.journal.drop t.session.world.journal.length).foldl showEntry
      { t with session := s })

/-- Notes something down. -/
def note (level : World.Level) (message : String) (t : Terminal) : Terminal :=
  (t.act fun s => ((), s.mapWorld (·.note level .console message))).2

/-- Evaluates a chunk, if it ends at all. -/
def evaluate (chunk : String) (t : Terminal) : Option (Except Fault Report.Summary) × Terminal :=
  match t.act (Session.serve (.evaluate chunk)) with
  | (result, t) => (result.map Session.account, t)

/-- Complains of an evaluation that went wrong. -/
def report (summary : Report.Summary) (t : Terminal) : Terminal :=
  if summary.status = "error" then t.complain summary.text else t

/-- A script that does not look like a source of chunks' code. -/
def isForeign (url : String) : Bool :=
  !(".py".toList.reverse.isPrefixOf (url.toList.takeWhile (· != '?')).reverse)

/-- The foreign ones among addresses, which must be texts. -/
def foreignScripts : List Datum → Except Fault (List String)
  | [] => .ok []
  | .str url :: rest =>
    (foreignScripts rest).map fun urls => if isForeign url then url :: urls else urls
  | v :: _ => .error (.of .attributeError s!"'{v.typeName}' object has no attribute 'split'")

/-- The warning before a session whose scripts will not all load. -/
def warning (settings : Settings) (urls : List String) : String :=
  s!"The console host runs script assets as Python; {commaSeparated urls} will not load. " ++
    s!"Set script_urls to Python sources to use {settings.text .heavyDependency}."

/-- The host of a terminal. Scripts are code that writes to the same output. -/
def host : World.Host :=
  { means := .bulk, runsScripts := true, audience := .standard }

/-- Sets up a session with settings. -/
def setUp (settings : Settings) (t : Terminal) : Except Fault Terminal :=
  match foreignScripts settings.scriptUrls with
  | .error fault => .error fault
  | .ok foreign =>
    let t := if foreign.isEmpty then t else t.note .warning (warning settings foreign)
    let world := { t.session.world with
      host := host, installer := t.session.world.installer.withAliases settings.aliases }
    .ok { t with session := { settings := settings, world := world } }

end Terminal

end Chunkwise.Console
