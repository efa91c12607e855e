import Chunkwise.Output.Receiver
import Chunkwise.World.Library
import Chunkwise.World.Plan

/-!
The host of an evaluator: its way to load scripts and its receiver of output. The names of the host
are the first scope of the store.
-/
namespace Chunkwise.World

/-- What loading a script does: it fails, or puts libraries into the names of the host and takes
names out. -/
structure Script where
  failure : Option Plan := none
  register : List (String × Library) := []
  unregister : List String := []
  deriving DecidableEq, Repr

/-- How the host loads scripts. -/
inductive Means where
  /-- One script after another, each awaited. -/
  | document
  /-- All scripts in one call. -/
  | bulk
  | none
  deriving DecidableEq, Repr

/-- Who takes the output: a receiver that keeps the texts, a stream of its own, or the standard
output that scripts write to as well. -/
inductive Audience where
  | receiver (receiver : Output.Receiver)
  | stream (text : String)
  | standard
  deriving DecidableEq, Repr

/-- The audience when a text is sent to it. The standard output is not its own to keep. -/
def Audience.take (text : String) : Audience → Option Fault × Audience
  | .receiver r =>
    match r.take text with
    | (fault, r') => (fault, .receiver r')
  | .stream sent => (none, .stream (sent ++ Output.endLine text))
  | .standard => (none, .standard)

structure Host where
  means : Means := .document
  /-- The turns that a document takes to append a script. -/
  turns : Nat := 1
  /-- Scripts are fetched and run as code of the host, rather than looked up. -/
  runsScripts : Bool := false
  scripts : List (String × Script) := []
  loaded : List Datum := []
  imported : List (List Datum) := []
  audience : Audience := .receiver {}

/-- What a script does when it is looked up. One that is not listed does nothing. -/
def Host.script (host : Host) (url : Datum) : Script :=
  match url with
  | .str url => (host.scripts.lookup url).getD {}
  | _ => {}

/-- Binds a library among the names of the host. -/
def bindLibrary (store : Store) (name : String) (library : Library) : Store :=
  match library.make store with
  | (v, store) => store.mapNames Store.hostScope (·.set name v)

/-- The names of the host when a script has been loaded. -/
def Script.apply (script : Script) (store : Store) : Store :=
  let bind (store : Store) (entry : String × Library) := bindLibrary store entry.1 entry.2
  let added := script.register.foldl bind store
  script.unregister.foldl (fun store name => store.mapNames Store.hostScope (·.erase name)) added

end Chunkwise.World
