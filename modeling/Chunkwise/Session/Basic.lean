import Chunkwise.Bridge.Scripts
import Chunkwise.Interpreter.Basic
import Chunkwise.Session.Deed
import Chunkwise.Settings.Basic

/-!
A session: jobs that ask for chunks to be evaluated, and what they share. All that can wait is
cut into stages; between two stages anything else may happen that is ready.
-/
namespace Chunkwise
open Chunkwise.Execution

namespace Session

/-- What can be done next: a job, a construction or an attempt goes on, or a job is told that what
it waits for has ended. -/
inductive Event where
  | job (n : Nat)
  | relay (n : Nat)
  | construction (n : Nat)
  | attempt (n : Nat)
  deriving DecidableEq, Repr

/-- A lock with those who wait for it, in order. The first may have been woken; until it goes on
nobody else takes the lock. -/
structure Lock where
  held : Bool := false
  waiting : List Event := []
  deriving DecidableEq, Repr

namespace Lock

/-- The lock can be taken without waiting. -/
def isFree (lock : Lock) : Bool :=
  !lock.held && lock.waiting.isEmpty

def take (lock : Lock) : Lock :=
  { lock with held := true }

def queue (lock : Lock) (event : Event) : Lock :=
  { lock with waiting := lock.waiting ++ [event] }

/-- The lock can be taken by one who has waited for it: it is let go of, and all who came before have
had their turn. -/
def admits (event : Event) (lock : Lock) : Bool :=
  !lock.held && lock.waiting.head? = some event

/-- Someone who was woken takes the lock. -/
def takeAfter (lock : Lock) (event : Event) : Lock :=
  { held := true, waiting := lock.waiting.erase event }

def release (lock : Lock) : Lock :=
  { lock with held := false }

end Lock

/-- What a job is asked to do. -/
inductive Request where
  | evaluate (chunk : String)
  /-- To see to it that the bridge is loaded, for an interpreter. -/
  | bootstrap (interpreter : Nat)
  /-- To see to it that there is an interpreter. -/
  | interpreter
  deriving DecidableEq, Repr

/-- Where a job stands. -/
inductive Stage where
  | starting
  | awaitingInterpreter (construction : Nat)
  | awaitingBridge (interpreter attempt : Nat)
  | queuedToResolve (interpreter : Nat)
  | installing (interpreter : Nat) (missing : List String) (turns : Nat)
  | queuedToRun (interpreter : Nat)
  | running (interpreter : Nat) (resume : Scene → Run (Except Fault Value))
  /-- The bound of the evaluation was too small. -/
  | stuck
  | ended (result : Except Fault Value)

structure Job where
  request : Request
  stage : Stage := .starting

/-- Where the construction of an interpreter stands. -/
inductive Making where
  | starting
  | preparing (fault : Option Fault) (turns : Nat)
  | ended (result : Except Fault Nat)

/-- The construction of an interpreter, with the jobs that wait for it. -/
structure Construction where
  stage : Making := .starting
  watchers : List Nat := []

/-- Where an attempt to load the heavy library stands. -/
inductive Loading where
  | starting
  | appending (url : Datum) (rest : List Datum) (turns : Nat)
  | fetching (turns : Nat)
  | queuedToRun (source : String)
  | running (resume : Scene → Run (Except Fault Value))
  | stuck
  | ended (fault : Option Fault)

/-- An attempt of a bridge to load the heavy library for an interpreter, with the jobs that wait
for it. -/
structure Attempt where
  bridge : Nat
  interpreter : Nat
  stage : Loading := .starting
  watchers : List Nat := []

/-- An interpreter and the lock that keeps its chunks apart. -/
structure Cell where
  interpreter : Interpreter
  lock : Lock := {}
  deriving Inhabited

/-- A bridge: how far it is, how often it was tried, and the attempt under way. -/
structure Crossing where
  status : Bridge.Status := .unloaded
  attempts : Nat := 0
  inflight : Option Nat := none
  deriving DecidableEq, Repr

end Session

/-- Interpreters, bridges, constructions, attempts and jobs are known by their place in the order
in which they came. -/
structure Session where
  settings : Settings
  world : World
  cells : List Session.Cell := []
  crossings : List Session.Crossing := [{}]
  constructions : List Session.Construction := []
  attempts : List Session.Attempt := []
  jobs : List Session.Job := []
  /-- The interpreter of new evaluations. -/
  current : Option Nat := none
  /-- The construction that new evaluations join. -/
  construction : Option Nat := none
  /-- The bridge of new evaluations. -/
  bridge : Nat := 0
  /-- Keeps the searches for packages apart. -/
  resolving : Session.Lock := {}
  ready : List Session.Event := []
  /-- A fault that stopped everything. -/
  halted : Option Fault := none
  /-- What was done, in order. -/
  deeds : List Session.Deed := []

namespace Session

/-! Reading the tables. -/

def cell (s : Session) (i : Nat) : Cell :=
  s.cells[i]?.getD default

def crossing (s : Session) : Crossing :=
  s.crossings[s.bridge]?.getD {}

def stage? (n : Nat) (s : Session) : Option Stage :=
  s.jobs[n]?.map fun job => job.stage

def request? (n : Nat) (s : Session) : Option Request :=
  s.jobs[n]?.map fun job => job.request

def making? (n : Nat) (s : Session) : Option Making :=
  s.constructions[n]?.map fun c => c.stage

def loading? (n : Nat) (s : Session) : Option Loading :=
  s.attempts[n]?.map fun a => a.stage

/-- The name of the heavy library as it is spelled. -/
def heavy (s : Session) : String :=
  s.settings.text .heavyDependency

/-- The name that a setting gives, if it is one. -/
def name? (field : Settings.Field) (s : Session) : Option String :=
  match s.settings.get field with
  | .str name => some name
  | _ => none

def file (s : Session) : Datum :=
  s.settings.get .filename

/-! Changing the tables. -/

def did (deed : Deed) (s : Session) : Session :=
  { s with deeds := s.deeds ++ [deed] }

def mapWorld (f : World → World) (s : Session) : Session :=
  { s with world := f s.world }

def mapCell (i : Nat) (f : Cell → Cell) (s : Session) : Session :=
  { s with cells := s.cells.modify i f }

def mapLock (i : Nat) (f : Lock → Lock) (s : Session) : Session :=
  s.mapCell i fun c => { c with lock := f c.lock }

def mapCrossing (b : Nat) (f : Crossing → Crossing) (s : Session) : Session :=
  { s with crossings := s.crossings.modify b f }

def setJob (n : Nat) (stage : Stage) (s : Session) : Session :=
  { s with jobs := s.jobs.modify n fun job => { job with stage := stage } }

def setConstruction (n : Nat) (stage : Making) (s : Session) : Session :=
  { s with constructions := s.constructions.modify n fun c => { c with stage := stage } }

def setAttempt (n : Nat) (stage : Loading) (s : Session) : Session :=
  { s with attempts := s.attempts.modify n fun a => { a with stage := stage } }

/-- Makes an event ready. -/
def wake (event : Event) (s : Session) : Session :=
  { s with ready := s.ready ++ [event] }

def wakeAll (events : List Event) (s : Session) : Session :=
  { s with ready := s.ready ++ events }

/-- Binds the name that a setting gives for the chunks of an interpreter. What is no name is not
bound, and what cannot be a key is refused. -/
def bindName (i : Nat) (field : Settings.Field) (v : Value) (s : Session) :
    Option Fault × Session :=
  match s.settings.get field with
  | .str name => (none, s.mapWorld ((s.cell i).interpreter.bind name v))
  | key =>
    match key.hashed with
    | .ok _ => (none, s)
    | .error fault => (some fault, s)

/-! Code in a session. -/

/-- What code of an interpreter reads and changes. -/
def scene (i : Nat) (s : Session) : Scene :=
  (s.cell i).interpreter.scene s.world

/-- The session as code of an interpreter has left it. -/
def leave (i : Nat) (scene : Scene) (s : Session) : Session :=
  { s.mapCell i fun c => { c with interpreter := c.interpreter.leftBy scene } with
    world := scene.world }

/-- Lets go of an interpreter's lock, and wakes the first who waits for it. -/
def releaseRun (i : Nat) (s : Session) : Session :=
  (s.mapLock i Lock.release).wakeAll (s.cell i).lock.waiting.head?.toList

/-- Ends the search for packages of a job, and wakes the first who waits for that. -/
def releaseResolving (n : Nat) (s : Session) : Session :=
  ({ s with resolving := s.resolving.release }.wakeAll s.resolving.waiting.head?.toList).did
    (.searched n)

/-- The fault leaves the work of its own accord, and everything with it. -/
def isFatal (fault : Fault) : Bool :=
  fault.kind.isA .systemExit || fault.kind.isA .keyboardInterrupt

def haltOn (fault : Option Fault) (s : Session) : Session :=
  { s with halted := s.halted.or (fault.filter isFatal) }

end Session

end Chunkwise
