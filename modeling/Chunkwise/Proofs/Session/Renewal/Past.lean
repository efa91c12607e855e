import Chunkwise.Proofs.Session.Steps

/-!
A session with a past. What was made and asked for before stays in the tables, in front of all that
comes later, and nothing refers to it any more: numbers are shifted, and that is all. Each reading
and each change of a session is the same with a past as without.
-/
namespace Chunkwise.Session
open Chunkwise.Execution

/-- What has been before. No code of it is running. -/
structure Past where
  cells : List Cell
  crossings : List Crossing
  constructions : List Construction
  attempts : List Attempt
  jobs : List Job
  deeds : List Deed
  unheld : ∀ cell ∈ cells, cell.lock.held = false

namespace Past

variable (past : Past)

/-! Numbers behind a past. -/

def interpreter (i : Nat) : Nat :=
  past.cells.length + i

def bridge (b : Nat) : Nat :=
  past.crossings.length + b

def building (c : Nat) : Nat :=
  past.constructions.length + c

def trial (a : Nat) : Nat :=
  past.attempts.length + a

def task (n : Nat) : Nat :=
  past.jobs.length + n

/-! Records behind a past. -/

def event : Event → Event
  | .job n => .job (past.task n)
  | .relay n => .relay (past.task n)
  | .construction c => .construction (past.building c)
  | .attempt a => .attempt (past.trial a)

def lock (lock : Lock) : Lock :=
  { lock with waiting := lock.waiting.map past.event }

def cell (cell : Cell) : Cell :=
  { cell with lock := past.lock cell.lock }

def crossing (crossing : Crossing) : Crossing :=
  { crossing with inflight := crossing.inflight.map past.trial }

def made (result : Except Fault Nat) : Except Fault Nat :=
  result.map past.interpreter

def making : Making → Making
  | .starting => .starting
  | .preparing fault turns => .preparing fault turns
  | .ended result => .ended (past.made result)

def construction (construction : Construction) : Construction :=
  { stage := past.making construction.stage
    watchers := construction.watchers.map past.task }

def attempt (attempt : Attempt) : Attempt :=
  { bridge := past.bridge attempt.bridge
    interpreter := past.interpreter attempt.interpreter
    stage := attempt.stage
    watchers := attempt.watchers.map past.task }

def request : Request → Request
  | .evaluate chunk => .evaluate chunk
  | .bootstrap i => .bootstrap (past.interpreter i)
  | .interpreter => .interpreter

def stage : Stage → Stage
  | .starting => .starting
  | .awaitingInterpreter c => .awaitingInterpreter (past.building c)
  | .awaitingBridge i a => .awaitingBridge (past.interpreter i) (past.trial a)
  | .queuedToResolve i => .queuedToResolve (past.interpreter i)
  | .installing i missing turns => .installing (past.interpreter i) missing turns
  | .queuedToRun i => .queuedToRun (past.interpreter i)
  | .running i resume => .running (past.interpreter i) resume
  | .stuck => .stuck
  | .ended result => .ended result

def job (job : Job) : Job :=
  { request := past.request job.request, stage := past.stage job.stage }

def deed : Deed → Deed
  | .awaitConstruction n c => .awaitConstruction (past.task n) (past.building c)
  | .prepare c => .prepare (past.building c)
  | .prepared c success => .prepared (past.building c) success
  | .enter n i => .enter (past.task n) (past.interpreter i)
  | .awaitAttempt n a => .awaitAttempt (past.task n) (past.trial a)
  | .choose a means => .choose (past.trial a) means
  | .load a url => .load (past.trial a) url
  | .loadAll a urls => .loadAll (past.trial a) urls
  | .seek a found => .seek (past.trial a) found
  | .bind a field => .bind (past.trial a) field
  | .wrap a tensor => .wrap (past.trial a) tensor
  | .fetch a => .fetch (past.trial a)
  | .adapt a => .adapt (past.trial a)
  | .settled a success => .settled (past.trial a) success
  | .crossed a i => .crossed (past.trial a) (past.interpreter i)
  | .search n => .search (past.task n)
  | .probe n root answer => .probe (past.task n) root answer
  | .request n packages => .request (past.task n) packages
  | .installed n packages success => .installed (past.task n) packages success
  | .searched n => .searched (past.task n)
  | .run n i => .run (past.task n) (past.interpreter i)

/-- A session behind a past. -/
def before (s : Session) : Session :=
  { s with
    cells := past.cells ++ s.cells.map past.cell
    crossings := past.crossings ++ s.crossings.map past.crossing
    constructions := past.constructions ++ s.constructions.map past.construction
    attempts := past.attempts ++ s.attempts.map past.attempt
    jobs := past.jobs ++ s.jobs.map past.job
    current := s.current.map past.interpreter
    construction := s.construction.map past.building
    bridge := past.bridge s.bridge
    resolving := past.lock s.resolving
    ready := s.ready.map past.event
    deeds := past.deeds ++ s.deeds.map past.deed }

variable {past : Past} {s : Session} {n i a b c : Nat}

theorem event_injective : Function.Injective past.event := by
  intro x y h
  cases x <;> cases y <;> simp_all [event, task, building, trial]

theorem building_injective : Function.Injective past.building := fun _ _ => Nat.add_left_cancel

/-! Tables behind a past. -/

section Tables

variable {α β : Type} {f : α → β}

theorem getElem?_behind {old : List β} {new : List α} (k : Nat) :
    (old ++ new.map f)[old.length + k]? = new[k]?.map f := by
  rw [List.getElem?_append_right (Nat.le_add_right _ _), Nat.add_sub_cancel_left,
    List.getElem?_map]

theorem modify_map {g : β → β} {h : α → α} (hfg : ∀ x, g (f x) = f (h x)) (new : List α)
    (k : Nat) :
    (new.map f).modify k g = (new.modify k h).map f := by
  induction new generalizing k with
  | nil => simp
  | cons x new ih => cases k <;> simp [hfg, ih]

theorem modify_behind (old : List β) (new : List α) {g : β → β} {h : α → α}
    (hfg : ∀ x, g (f x) = f (h x)) (k : Nat) :
    (old ++ new.map f).modify (old.length + k) g = old ++ (new.modify k h).map f := by
  induction old with
  | nil => simpa using modify_map hfg new k
  | cons x old ih => simpa [Nat.succ_add] using ih

end Tables

/-! Locks. -/

@[simp] theorem isFree_lock (l : Lock) : (past.lock l).isFree = l.isFree := by
  simp [lock, Lock.isFree]

theorem head?_lock (l : Lock) : (past.lock l).waiting.head? = l.waiting.head?.map past.event := by
  simp [lock]

theorem admits_event (past : Past) (event : Event) (l : Lock) :
    (past.lock l).admits (past.event event) = l.admits event := by
  have hhead : (past.lock l).waiting.head? = some (past.event event) ↔
      l.waiting.head? = some event := by
    rw [head?_lock, ← Option.map_some, (Option.map_injective event_injective).eq_iff]
  simp only [Lock.admits, hhead]
  rfl

theorem take_lock (l : Lock) : (past.lock l).take = past.lock l.take := rfl

theorem release_lock (l : Lock) : (past.lock l).release = past.lock l.release := rfl

theorem queue_lock (past : Past) (event : Event) (l : Lock) :
    (past.lock l).queue (past.event event) = past.lock (l.queue event) := by
  simp [lock, Lock.queue]

theorem takeAfter_lock (event : Event) (l : Lock) :
    (past.lock l).takeAfter (past.event event) = past.lock (l.takeAfter event) := by
  simp [lock, Lock.takeAfter, List.map_erase event_injective]

/-! Reading. -/

@[simp] theorem before_world : (past.before s).world = s.world := rfl

@[simp] theorem before_settings : (past.before s).settings = s.settings := rfl

@[simp] theorem before_halted : (past.before s).halted = s.halted := rfl

@[simp] theorem before_heavy : (past.before s).heavy = s.heavy := rfl

@[simp] theorem before_file : (past.before s).file = s.file := rfl

@[simp] theorem before_name? (field : Settings.Field) :
    (past.before s).name? field = s.name? field := rfl

@[simp] theorem before_current :
    (past.before s).current = s.current.map past.interpreter := rfl

@[simp] theorem before_construction :
    (past.before s).construction = s.construction.map past.building := rfl

@[simp] theorem before_resolving : (past.before s).resolving = past.lock s.resolving := rfl

theorem before_cell (i : Nat) :
    (past.before s).cell (past.interpreter i) = past.cell (s.cell i) := by
  simp only [Session.cell, before, interpreter, getElem?_behind]
  cases s.cells[i]? <;> rfl

@[simp] theorem before_interpreter (i : Nat) :
    ((past.before s).cell (past.interpreter i)).interpreter = (s.cell i).interpreter := by
  rw [before_cell]
  rfl

@[simp] theorem before_lock (i : Nat) :
    ((past.before s).cell (past.interpreter i)).lock = past.lock (s.cell i).lock := by
  rw [before_cell]
  rfl

theorem before_crossing : (past.before s).crossing = past.crossing s.crossing := by
  simp only [Session.crossing, before, bridge, getElem?_behind]
  cases s.crossings[s.bridge]? <;> rfl

@[simp] theorem before_scene (i : Nat) :
    (past.before s).scene (past.interpreter i) = s.scene i := by
  simp [Session.scene]

@[simp] theorem before_stage? (n : Nat) :
    (past.before s).stage? (past.task n) = (s.stage? n).map past.stage := by
  simp only [stage?, before, task, getElem?_behind, Option.map_map]
  rfl

@[simp] theorem before_request? (n : Nat) :
    (past.before s).request? (past.task n) = (s.request? n).map past.request := by
  simp only [request?, before, task, getElem?_behind, Option.map_map]
  rfl

@[simp] theorem before_making? (c : Nat) :
    (past.before s).making? (past.building c) = (s.making? c).map past.making := by
  simp only [making?, before, building, getElem?_behind, Option.map_map]
  rfl

@[simp] theorem before_loading? (a : Nat) :
    (past.before s).loading? (past.trial a) = s.loading? a := by
  simp only [loading?, before, trial, getElem?_behind, Option.map_map]
  rfl

@[simp] theorem before_scanOf (n : Nat) : (past.before s).scanOf (past.task n) = s.scanOf n := by
  simp only [scanOf, before_request?]
  rcases s.request? n with _ | _ | _ | _ <;> rfl

/-! Changes. -/

theorem before_did (past : Past) (s : Session) (deed : Deed) :
    (past.before s).did (past.deed deed) = past.before (s.did deed) := by
  simp [did, before]

@[simp] theorem before_mapWorld (f : World → World) :
    (past.before s).mapWorld f = past.before (s.mapWorld f) := rfl

@[simp] theorem before_withWorld (w : World) :
    { past.before s with world := w } = past.before { s with world := w } := rfl

theorem before_mapCell {f g : Cell → Cell} (hfg : ∀ cell, g (past.cell cell) = past.cell (f cell))
    (i : Nat) : (past.before s).mapCell (past.interpreter i) g = past.before (s.mapCell i f) := by
  simp only [mapCell, before, interpreter, modify_behind _ _ hfg]

theorem before_mapLock (past : Past) (s : Session) {f g : Lock → Lock}
    (hfg : ∀ l, g (past.lock l) = past.lock (f l)) (i : Nat) :
    (past.before s).mapLock (past.interpreter i) g = past.before (s.mapLock i f) :=
  before_mapCell (fun c => by simp [Past.cell, hfg]) i

theorem before_mapCrossing {f g : Crossing → Crossing}
    (hfg : ∀ x, g (past.crossing x) = past.crossing (f x)) (b : Nat) :
    (past.before s).mapCrossing (past.bridge b) g = past.before (s.mapCrossing b f) := by
  simp only [mapCrossing, before, bridge, modify_behind _ _ hfg]

theorem before_setJob (past : Past) (s : Session) (n : Nat) (stage : Stage) :
    (past.before s).setJob (past.task n) (past.stage stage) = past.before (s.setJob n stage) := by
  have h := modify_behind past.jobs s.jobs (f := past.job)
    (g := fun job => { job with stage := past.stage stage })
    (h := fun job => { job with stage := stage }) (fun _ => rfl) n
  simp only [setJob, before, task, h]

theorem before_setConstruction (past : Past) (s : Session) (c : Nat) (stage : Making) :
    (past.before s).setConstruction (past.building c) (past.making stage) =
      past.before (s.setConstruction c stage) := by
  have h := modify_behind past.constructions s.constructions
    (f := past.construction) (g := fun k => { k with stage := past.making stage })
    (h := fun k => { k with stage := stage }) (fun _ => rfl) c
  simp only [setConstruction, before, building, h]

@[simp] theorem before_setAttempt (a : Nat) (stage : Loading) :
    (past.before s).setAttempt (past.trial a) stage = past.before (s.setAttempt a stage) := by
  have h := modify_behind past.attempts s.attempts (f := past.attempt)
    (g := fun made => { made with stage := stage })
    (h := fun made => { made with stage := stage }) (fun _ => rfl) a
  simp only [setAttempt, before, trial, h]

theorem before_wake (past : Past) (s : Session) (event : Event) :
    (past.before s).wake (past.event event) = past.before (s.wake event) := by
  simp [wake, before]

theorem before_wakeAll (events : List Event) :
    (past.before s).wakeAll (events.map past.event) = past.before (s.wakeAll events) := by
  simp [wakeAll, before]

@[simp] theorem before_haltOn (fault : Option Fault) :
    (past.before s).haltOn fault = past.before (s.haltOn fault) := rfl

@[simp] theorem before_leave (i : Nat) (scene : Scene) :
    (past.before s).leave (past.interpreter i) scene = past.before (s.leave i scene) := by
  simp only [leave]
  rw [before_mapCell (f := fun c => { c with interpreter := c.interpreter.leftBy scene })
    (fun _ => rfl)]
  rfl

end Past

end Chunkwise.Session
