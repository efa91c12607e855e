import Chunkwise.Report.Summary
import Chunkwise.Session.Evaluate

/-!
What happens in a session: requests come, ready events are taken in the order in which they became
ready, and the session may be closed. A run of a session is one order of many.
-/
namespace Chunkwise.Session

/-- Lets an event happen. -/
def fire (event : Event) (s : Session) : Session :=
  match event with
  | .relay n => s.wake (.job n)
  | .job n => s.continueJob n
  | .construction n => s.continueConstruction n
  | .attempt n => s.continueAttempt n

/-- Lets the first ready event happen. After a fatal fault nothing happens. -/
def advance (s : Session) : Option Session :=
  match s.halted, s.ready with
  | none, event :: rest => some ({ s with ready := rest }.fire event)
  | _, _ => none

/-- Lets events happen until none is ready. -/
def settle : Nat → Session → Session
  | 0, s => s
  | n + 1, s =>
    match s.advance with
    | none => s
    | some s' => settle n s'

/-- Takes a request. -/
def submit (request : Request) (s : Session) : Session :=
  let job : Job := { request := request }
  { s with jobs := s.jobs ++ [job] }.wake (.job s.jobs.length)

/-- How a job ended, if it has. -/
def result? (n : Nat) (s : Session) : Option (Except Fault Value) :=
  match s.stage? n with
  | some (.ended result) => some result
  | _ => none

/-- Bounds the events of requests that are taken together. -/
def patience : Nat := 100000

/-- How a job ended, if only by the fault that stopped everything. -/
def outcome? (n : Nat) (s : Session) : Option (Except Fault Value) :=
  (s.result? n).or (s.halted.map .error)

/-- Takes requests and lets all happen that comes of them. -/
def serveAll (requests : List Request) (s : Session) :
    List (Option (Except Fault Value)) × Session :=
  let s' := (requests.foldl (fun s request => s.submit request) s).settle patience
  ((List.range' s.jobs.length requests.length).map fun n => s'.outcome? n, s')

/-- Takes a request and lets all happen that comes of it. -/
def serve (request : Request) (s : Session) : Option (Except Fault Value) × Session :=
  let s' := (s.submit request).settle patience
  (s'.outcome? s.jobs.length, s')

/-- Forgets the interpreter and the bridge; the next evaluation makes new ones. A fault of the
output leaves all as it is. -/
def close (s : Session) : Option Fault × Session :=
  let closed : Option Fault × Session :=
    match s.current with
    | none => (none, s)
    | some i =>
      match (s.cell i).interpreter.close s.world with
      | (fault, interpreter, w) =>
        (fault, { s.mapCell i fun c => { c with interpreter := interpreter } with world := w })
  match closed with
  | (some fault, s) => (some fault, s)
  | (none, s) =>
    (none, { s with
      current := none
      construction := none
      crossings := s.crossings ++ [({} : Crossing)]
      bridge := s.crossings.length })

/-- The account of an evaluation that a caller gets who wants no faults; one that is not ordinary
is none to account for. -/
def account : Except Fault Value → Except Fault Report.Summary
  | .ok _ => .ok { status := "success" }
  | .error fault =>
    if fault.kind.isA .evaluatorError then
      let mark := match fault.detail with
        | some (.execution mark) => mark
        | _ => none
      fault.text.map fun text => { status := "error", message := .str text, mark := mark }
    else if fault.kind.isOrdinary then
      fault.text.map fun text =>
        { status := "error", message := .str s!"{fault.kind.name}: {text}" }
    else .error fault

end Chunkwise.Session
