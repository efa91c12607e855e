import Chunkwise.World.Host
import Chunkwise.World.Installer
import Chunkwise.World.Modules
import Chunkwise.World.Web

/-!
All that an evaluator touches outside itself.
-/
namespace Chunkwise

structure World where
  /-- The objects of all code, of the host and of every interpreter. -/
  store : Store := .initial
  host : World.Host := {}
  installer : World.Installer := .absent
  modules : World.Modules := {}
  web : World.Web := {}
  journal : List World.Entry := []
  /-- What was written to the standard output. -/
  written : String := ""
  /-- What came of output, last first. -/
  record : List Output.Mark := []

namespace World

def note (level : Level) (author : Author) (message : String) (w : World) : World :=
  { w with journal := w.journal ++ [⟨level, author, message⟩] }

def mark (m : Output.Mark) (w : World) : World :=
  { w with record := m :: w.record }

/-- Sends a text to the host. -/
def send : Output.Sink World := fun text w =>
  match w.host.audience.take text with
  | (some fault, audience) => (some fault, { w with host := { w.host with audience := audience } })
  | (none, audience) =>
    let written := if audience = .standard then w.written ++ Output.endLine text else w.written
    let w := { w with host := { w.host with audience := audience }, written := written }
    (none, w.mark (.sent text))

/-- Sends a datum to the host, which must be a text. -/
def sendDatum (d : Datum) (w : World) : Option Fault × World :=
  match d with
  | .str text => w.send text
  | d =>
    (some (.of .attributeError s!"'{d.typeName}' object has no attribute 'endswith'"), w)

/-- Changes the store. It is taken out meanwhile, so that a change need not copy it. -/
def mapStore (f : Store → Store) (w : World) : World :=
  let store := w.store
  let w := { w with store := ⟨#[]⟩ }
  { w with store := f store }

/-- Does a step on the store. -/
def act {α : Type} (action : Store.Action α) (w : World) : Except Fault α × World :=
  let store := w.store
  let w := { w with store := ⟨#[]⟩ }
  match action store with
  | (result, store) => (result, { w with store := store })

/-- Adds an object to the store. -/
def add (object : Object) (w : World) : Address × World :=
  let store := w.store
  let w := { w with store := ⟨#[]⟩ }
  match store.add object with
  | (a, store) => (a, { w with store := store })

/-- The names of the host. -/
def hostNames (w : World) : Bindings :=
  w.store.names Store.hostScope

/-- Loads a script that the host looks up. -/
def loadScript (url : Datum) (w : World) : Option Fault × World :=
  let script := w.host.script url
  match script.failure with
  | some plan => (some (plan.fault []), w)
  | none =>
    (none, { w.mapStore script.apply with
      host := { w.host with loaded := w.host.loaded ++ [url] } })

/-- Fetches a text. -/
def fetch (url : Datum) (timeout : Datum) (blocking : Bool) (w : World) :
    Except Fault String × World :=
  match w.web.fetch ⟨url, timeout, blocking⟩ with
  | (result, web) => (result, { w with web := web })

/-- Keeps a module under a name. -/
def keepModule (name : String) (m : Value) (w : World) : World :=
  { w with modules := w.modules.keep name m }

/-- Makes an installed module importable. -/
def provideOne (w : World) (name : String) : World :=
  match w.add (.module name [("VALUE", .str (name ++ " installed"))]) with
  | (a, w) => w.keepModule name (.ref a)

/-- Makes installed modules importable. -/
def provide (names : List String) (w : World) : World :=
  names.foldl provideOne w

/-- Gets the installer ready. -/
def prepareInstaller (w : World) : Option Fault × World :=
  match w.installer with
  | .absent => (none, w)
  | .scripted script =>
    match script.prepare with
    | (fault, script') => (fault, { w with installer := .scripted script' })
  | .tool tool =>
    match tool.prepare with
    | (entries, tool') =>
      (none, { w with installer := .tool tool', journal := w.journal ++ entries })

/-- Keeps the outcome of an install. -/
def settleInstall (result : Installed) (w : World) : Option Fault × World :=
  match result with
  | .ok names => (none, w.provide names)
  | .error fault => (some fault, w)

/-- Asks the installer for packages. -/
def install (packages : List String) (w : World) : Option Fault × World :=
  match w.installer with
  | .absent => (some (.of .runtimeError "No package installer configured for this runtime"), w)
  | .scripted script =>
    match script.install packages with
    | (result, script') => settleInstall result { w with installer := .scripted script' }
  | .tool tool =>
    match tool.install packages with
    | (result, entries, tool') =>
      settleInstall result { w with installer := .tool tool', journal := w.journal ++ entries }

end World

end Chunkwise
