import Chunkwise.Import.Chunk
import Chunkwise.Packages.Resolution
import Chunkwise.Report.Description
import Chunkwise.Session.Bootstrap
import Chunkwise.Session.Construct

/-!
Evaluating a chunk: it needs an interpreter, the bridge if it imports the heavy library, and its
packages. Only then its code runs.
-/
namespace Chunkwise.Session
open Chunkwise.Execution

def endJob (n : Nat) (result : Except Fault Value) (s : Session) : Session :=
  s.setJob n (.ended result)

/-- The fault of a chunk's code as the caller sees it. -/
def executionFault (file : Datum) (source : String) (fault : Fault) : Fault :=
  if fault.kind.isOrdinary || fault.kind.isA .systemExit then
    match Report.describe file fault source with
    | .ok (message, mark) => .executionFailure message fault mark
    | .error e => e
  else fault

/-- Sends the text of a value to the host. Nothing is sent for a value that is nothing. -/
def forwardValue (v : Value) (w : World) : Option Fault × World :=
  if v.isNull then (none, w)
  else
    match w.store.render v with
    | .error fault => (some fault, w)
    | .ok text => w.send text

/-- Ends an evaluation whose code has run. -/
def concludeChunk (n : Nat) (source : String) (result : Except Fault Value) (s : Session) :
    Session :=
  match result with
  | .error fault => s.endJob n (.error (executionFault s.file source fault))
  | .ok v =>
    match forwardValue v s.world with
    | (none, w) => { s with world := w }.endJob n (.ok v)
    | (some fault, w) => { s with world := w }.endJob n (.error fault)

/-- Follows the run of a chunk to its next turn or its end. -/
def followChunk (n i : Nat) (source : String) (run : Run (Except Fault Value)) (s : Session) :
    Session :=
  match run with
  | .exhausted => s.setJob n .stuck
  | .suspended scene resume =>
    ((s.leave i scene).setJob n (.running i resume)).wake (.job n)
  | .done result scene => ((s.leave i scene).releaseRun i).concludeChunk n source result

/-- What a job asks to be run. -/
def scanOf (n : Nat) (s : Session) : Import.Scan :=
  match s.request? n with
  | some (.evaluate chunk) =>
    match s.name? .heavyDependency with
    | some name => Import.scan name chunk
    | none => Import.scanSpelling s.heavy chunk
  | _ => ⟨"", [], false⟩

def startChunk (n i : Nat) (s : Session) : Session :=
  let source := (s.scanOf n).source
  let s := s.did (.run n i)
  s.followChunk n i source (runChunk (s.cell i).interpreter.globals s.file source (s.scene i))

/-- Runs the chunk, when no other is running. -/
def queueChunk (n i : Nat) (s : Session) : Session :=
  let s := s.mapWorld (·.note .debug .evaluator ("Executing chunk:\n" ++ (s.scanOf n).source))
  if (s.cell i).lock.isFree then (s.mapLock i Lock.take).startChunk n i
  else (s.mapLock i (·.queue (.job n))).setJob n (.queuedToRun i)

/-- Where the packages of a job's chunk are looked for. -/
def environment (n i : Nat) : Packages.Environment Session where
  probe root s :=
    match probe root (s.scene i) with
    | (result, scene) => (result, (s.leave i scene).did (.probe n root result.toOption))
  note entry s := s.mapWorld fun w => { w with journal := w.journal ++ [entry] }

/-- The turns that an install takes. -/
def installTurns (w : World) : Nat :=
  match w.installer with
  | .scripted script => script.turns
  | .absent | .tool _ => 0

/-- Waits for the remaining turns and installs packages. -/
def install (n i : Nat) (missing : List String) (turns : Nat) (s : Session) : Session :=
  match turns with
  | rest + 1 => (s.setJob n (.installing i missing rest)).wake (.job n)
  | 0 =>
    match s.world.install missing with
    | (none, w) =>
      (({ s with world := w }.did (.installed n missing true)).releaseResolving n).queueChunk n i
    | (some fault, w) =>
      (({ s with world := w }.did (.installed n missing false)).releaseResolving n).endJob n
        (.error (Packages.installFault missing fault))

/-- Looks for the packages of a chunk and installs those that are missing. -/
def findPackages (n i : Nat) (s : Session) : Session :=
  match Packages.missing (environment n i) (s.scanOf n).roots (s.did (.search n)) with
  | (.error fault, s) => (s.releaseResolving n).endJob n (.error fault)
  | (.ok [], s) => (s.releaseResolving n).queueChunk n i
  | (.ok missing, s) => (s.did (.request n missing)).install n i missing (installTurns s.world)

/-- Looks for packages, when nobody else does. -/
def queueResolving (n i : Nat) (s : Session) : Session :=
  if (s.scanOf n).roots.isEmpty then s.queueChunk n i
  else if s.resolving.isFree then { s with resolving := s.resolving.take }.findPackages n i
  else { s with resolving := s.resolving.queue (.job n) }.setJob n (.queuedToResolve i)

/-- Goes on when the bridge is there. -/
def afterBridge (n i : Nat) (s : Session) : Session :=
  match s.request? n with
  | some (.evaluate _) => s.queueResolving n i
  | _ => s.endJob n (.ok .null)

/-- Starts an attempt to load the heavy library for an interpreter. -/
def newAttempt (i : Nat) (s : Session) : Session :=
  let a := s.attempts.length
  let s := s.mapCrossing s.bridge fun c =>
    { c with status := .loading, attempts := c.attempts + 1, inflight := some a }
  let made : Attempt := { bridge := s.bridge, interpreter := i }
  { s with attempts := s.attempts ++ [made] }.wake (.attempt a)

/-- Waits for an attempt. -/
def watchAttempt (n i a : Nat) (s : Session) : Session :=
  let s := s.did (.awaitAttempt n a)
  let attempts := s.attempts.modify a fun made => { made with watchers := made.watchers ++ [n] }
  { s with attempts := attempts }.setJob n (.awaitingBridge i a)

/-- Joins the attempt under way or starts one, unless the library is loaded. -/
def needBridge (n i : Nat) (s : Session) : Session :=
  if s.crossing.status = .ready then s.afterBridge n i
  else
    match s.crossing.inflight with
    | some a => s.watchAttempt n i a
    | none => (s.newAttempt i).watchAttempt n i s.attempts.length

/-- Goes on in an interpreter. -/
def withInterpreter (n i : Nat) (s : Session) : Session :=
  let s := s.did (.enter n i)
  match s.request? n with
  | some (.evaluate _) => if (s.scanOf n).heavy then s.needBridge n i else s.queueResolving n i
  | _ => s.endJob n (.ok .null)

/-- A construction that a job waited for has ended. One that failed is forgotten, unless it is no
longer the latest or its fault is none to recover from. -/
def learnInterpreter (n c : Nat) (result : Except Fault Nat) (s : Session) : Session :=
  match result with
  | .ok i => s.withInterpreter n i
  | .error fault =>
    let s :=
      if fault.kind.isOrdinary ∧ s.construction = some c then { s with construction := none } else s
    s.endJob n (.error fault)

/-- Starts the construction of an interpreter. -/
def newConstruction (s : Session) : Session :=
  let c := s.constructions.length
  let constructions := s.constructions ++ [({} : Construction)]
  { s with constructions := constructions, construction := some c }.wake (.construction c)

/-- Waits for a construction, unless it has ended. -/
def watchConstruction (n c : Nat) (s : Session) : Session :=
  let s := s.did (.awaitConstruction n c)
  match s.making? c with
  | some (.ended result) => s.learnInterpreter n c result
  | _ =>
    { s with constructions := s.constructions.modify c fun k =>
        { k with watchers := k.watchers ++ [n] } }.setJob n (.awaitingInterpreter c)

/-- Takes the interpreter that is there, joins the construction under way or starts one. -/
def needInterpreter (n : Nat) (s : Session) : Session :=
  match s.current, s.construction with
  | some i, _ => s.withInterpreter n i
  | none, some c => s.watchConstruction n c
  | none, none => s.newConstruction.watchConstruction n s.constructions.length

def startJob (n : Nat) (s : Session) : Session :=
  match s.request? n with
  | some (.bootstrap i) => s.needBridge n i
  | _ => s.needInterpreter n

/-- A job goes on. -/
def continueJob (n : Nat) (s : Session) : Session :=
  match s.stage? n with
  | some .starting => s.startJob n
  | some (.awaitingInterpreter c) =>
    match s.making? c with
    | some (.ended result) => s.learnInterpreter n c result
    | _ => s
  | some (.awaitingBridge i a) =>
    match s.loading? a with
    | some (.ended none) => s.afterBridge n i
    | some (.ended (some fault)) => s.endJob n (.error fault)
    | _ => s
  | some (.queuedToResolve i) =>
    if s.resolving.admits (.job n) then
      { s with resolving := s.resolving.takeAfter (.job n) }.findPackages n i
    else s
  | some (.installing i missing turns) => s.install n i missing turns
  | some (.queuedToRun i) =>
    if (s.cell i).lock.admits (.job n) then (s.mapLock i (·.takeAfter (.job n))).startChunk n i
    else s
  | some (.running i resume) => s.followChunk n i (s.scanOf n).source (resume (s.scene i))
  | some .stuck | some (.ended _) | none => s

end Chunkwise.Session
