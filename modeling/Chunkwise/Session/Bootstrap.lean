import Chunkwise.Bridge.Adapters
import Chunkwise.Bridge.Scripts
import Chunkwise.Session.Basic

/-!
An attempt to load the heavy library: its scripts are loaded into the host, the library and the
adapters are bound in the interpreter, and the adapter source is fetched and run. The first step
that fails ends the attempt.
-/
namespace Chunkwise.Session
open Chunkwise.Execution Chunkwise.Bridge

def bridgeOf (a : Nat) (s : Session) : Nat :=
  (s.attempts[a]?.map (·.bridge)).getD 0

def interpreterOf (a : Nat) (s : Session) : Nat :=
  (s.attempts[a]?.map (·.interpreter)).getD 0

/-- Ends an attempt, leaves the bridge as it says and tells those who wait. -/
def endAttempt (a : Nat) (fault : Option Fault) (s : Session) : Session :=
  let s := if fault.isNone then s.did (.crossed a (s.interpreterOf a)) else s
  let status := if fault.isNone then Status.ready else .failed
  let watchers := (s.attempts[a]?.map (·.watchers)).getD []
  let s := s.mapCrossing (s.bridgeOf a) fun c => { c with status := status, inflight := none }
  (s.setAttempt a (.ended fault)).wakeAll (watchers.map .relay) |>.haltOn fault

def failAttempt (a : Nat) (fault : Fault) (s : Session) : Session :=
  let s := s.did (.settled a false)
  let s := match fault.render with
    | .ok shown => s.mapWorld (·.note .error .bridge s!"Error setting up {s.heavy} bridge: {shown}")
    | .error _ => s
  s.endAttempt a (some fault)

/-- The note on an adapter source that has run. -/
def adapterNote (i : Nat) (s : Session) : Session :=
  let heavy := s.heavy
  let names := (s.cell i).interpreter.names s.world
  if (s.name? .heavyDependency).any names.has then
    s.mapWorld (·.note .info .bridge s!"{heavy} loaded into runtime globals")
  else
    s.mapWorld
      (·.note .warning .bridge s!"{heavy} not found in runtime globals after adapter source ran")

/-- The fault of an adapter source as the caller sees it. -/
def adapterFault (fault : Fault) : Fault :=
  if fault.kind.isOrdinary || fault.kind.isA .systemExit then
    match fault.text with
    | .ok text =>
      (Fault.bridgeLoadFailure s!"Adapter source failed: {fault.kind.name}: {text}" none).causedBy
        fault
    | .error e => e
  else fault

/-- Follows the run of the adapter source to its next turn or its end. -/
def followAdapter (a i : Nat) (run : Run (Except Fault Value)) (s : Session) : Session :=
  match run with
  | .exhausted => s.setAttempt a .stuck
  | .suspended scene resume =>
    ((s.leave i scene).setAttempt a (.running resume)).wake (.attempt a)
  | .done result scene =>
    let s := (s.leave i scene).releaseRun i
    match result with
    | .ok _ => ((s.did (.settled a true)).adapterNote i).endAttempt a none
    | .error fault => s.failAttempt a (adapterFault fault)

def runAdapter (a : Nat) (source : String) (s : Session) : Session :=
  let i := s.interpreterOf a
  let s := s.did (.adapt a)
  s.followAdapter a i (runChunk (s.cell i).interpreter.globals s.file source (s.scene i))

/-- Runs the adapter source, when no chunk is running. -/
def queueAdapter (a : Nat) (source : String) (s : Session) : Session :=
  let i := s.interpreterOf a
  if (s.cell i).lock.isFree then (s.mapLock i Lock.take).runAdapter a source
  else (s.mapLock i (·.queue (.attempt a))).setAttempt a (.queuedToRun source)

/-- The fault of a fetch of the adapter source as the caller sees it. -/
def fetchFault (url : Datum) (fault : Fault) : Fault :=
  let text := fault.safeText
  match fault.detail with
  | some (.fetch _ status) =>
    (Fault.bridgeLoadFailure ("Failed to fetch adapter source: " ++ text) (some status)).causedBy
      fault
  | _ =>
    if fault.kind.isA .httpError then
      let message := s!"Failed to fetch adapter source from {url.shown}: {text}"
      (Fault.bridgeLoadFailure message none).causedBy fault
    else fault

/-- Waits for the remaining turns and fetches the adapter source. -/
def fetchAdapter (a : Nat) (turns : Nat) (s : Session) : Session :=
  match turns with
  | rest + 1 => (s.setAttempt a (.fetching rest)).wake (.attempt a)
  | 0 =>
    let url := s.settings.get .adapterUrl
    match s.world.fetch url (s.settings.get .httpTimeout) false with
    | (.ok source, w) => ({ s with world := w }.did (.settled a true)).queueAdapter a source
    | (.error fault, w) => { s with world := w }.failAttempt a (fetchFault url fault)

/-- The tensor class of a library. -/
def tensorOf (library : Value) (s : Session) : Option Value :=
  (tensorClassOf library s.world.store).1.toOption

/-- Binds the library and the adapters around it. -/
def bindLibrary (a : Nat) (library : Value) (s : Session) : Session :=
  let i := s.interpreterOf a
  match (s.did (.bind a .rawBinding)).bindName i .rawBinding library with
  | (some fault, s) => s.failAttempt a fault
  | (none, s) =>
    let s := (s.did (.settled a true)).did (.wrap a (s.tensorOf library))
    match s.world.act (makeAdapters library) with
    | (.error fault, w) => { s with world := w }.failAttempt a fault
    | (.ok adapters, w) =>
      let s := ({ s with world := w }.did (.settled a true)).did (.bind a .utilsBinding)
      match s.bindName i .utilsBinding adapters with
      | (some fault, s) => s.failAttempt a fault
      | (none, s) => ((s.did (.settled a true)).did (.fetch a)).fetchAdapter a s.world.web.turns

/-- What the host has under the name of the heavy library. -/
def library? (s : Session) : Option Value :=
  (s.name? .heavyDependency).bind s.world.hostNames.get?

/-- Looks for the library among the names of the host. -/
def afterScripts (a : Nat) (s : Session) : Session :=
  let s := s.did (.seek a s.library?)
  let missing := s.failAttempt a
    (.bridgeLoadFailure (s.heavy ++ " global not found after loading scripts") none)
  match (s.settings.get .heavyDependency).hashed with
  | .error fault => s.failAttempt a fault
  | .ok _ =>
    match s.library? with
    | none | some .null => missing
    | some library => (s.did (.settled a true)).bindLibrary a library

/-- The result of loading one script. -/
def settleScript (a : Nat) (next : Session → Session) : Option Fault × Session → Session
  | (none, s) => next (s.did (.settled a true))
  | (some fault, s) => s.failAttempt a fault

/-- Loads a script that the host looks up. -/
def lookUpScript : Load Session := fun url s =>
  match s.world.loadScript url with
  | (fault, w) => (fault, { s with world := w })

/-- Appends scripts one by one; each takes its turns. -/
def appendScripts (a : Nat) : List Datum → Session → Session
  | [], s => s.afterScripts a
  | url :: rest, s =>
    let s := (s.did (.load a url)).mapWorld (appendNote url)
    match s.world.host.turns with
    | turns + 1 => (s.setAttempt a (.appending url rest turns)).wake (.attempt a)
    | 0 => settleScript a (appendScripts a rest) (append lookUpScript url s)

/-- The interpreter whose chunk is running: what scripts write meanwhile is in its output. -/
def running? (s : Session) : Option Nat :=
  s.cells.findIdx? (·.lock.held)

/-- Runs the text of a script as code of the host. -/
def runHostScript (url : Datum) (source : String) (s : Session) : Option Fault × Session :=
  match s.running? with
  | some i =>
    match runScript url source (s.scene i) with
    | (fault, scene) => (fault, s.leave i scene)
  | none =>
    match runScript url source { pending := none, world := s.world } with
    | (fault, scene) => (fault, { s with world := scene.world })

/-- Loads a script as the host does: it looks it up, or fetches and runs it. -/
def importScript : Load Session := fun url s =>
  if s.world.host.runsScripts then
    match s.world.fetch url (s.settings.get .httpTimeout) true with
    | (.error fault, w) => (some fault, { s with world := w })
    | (.ok source, w) => { s with world := w }.runHostScript url source
  else lookUpScript url s

/-- The call for all scripts, whose addresses have been found to be texts. -/
def callForAll (a : Nat) (urls : List Datum) (names : List String) (s : Session) : Session :=
  ((s.did (.settled a true)).did (.loadAll a urls)).mapWorld (importNote names)

def startAttempt (a : Nat) (s : Session) : Session :=
  let number := (s.crossings[s.bridgeOf a]?.map (·.attempts)).getD 0
  let s := s.mapWorld
    (·.note .info .bridge s!"Loading {s.heavy} dependencies (attempt {number})")
  let urls := s.settings.scriptUrls
  let s := s.did (.choose a s.world.host.means)
  match chooseStrategy s.world.host.means with
  | .error fault => s.failAttempt a fault
  | .ok .each => (s.did (.settled a true)).appendScripts a urls
  | .ok .bulk =>
    settleScript a (·.afterScripts a) (importAll importScript (callForAll a urls) urls s)

/-- An attempt goes on. -/
def continueAttempt (a : Nat) (s : Session) : Session :=
  match s.loading? a with
  | some .starting => s.startAttempt a
  | some (.appending url rest 0) =>
    settleScript a (appendScripts a rest) (append lookUpScript url s)
  | some (.appending url rest (turns + 1)) =>
    (s.setAttempt a (.appending url rest turns)).wake (.attempt a)
  | some (.fetching turns) => s.fetchAdapter a turns
  | some (.queuedToRun source) =>
    if (s.cell (s.interpreterOf a)).lock.admits (.attempt a) then
      (s.mapLock (s.interpreterOf a) (·.takeAfter (.attempt a))).runAdapter a source
    else s
  | some (.running resume) =>
    s.followAdapter a (s.interpreterOf a) (resume (s.scene (s.interpreterOf a)))
  | some .stuck | some (.ended _) | none => s

end Chunkwise.Session
