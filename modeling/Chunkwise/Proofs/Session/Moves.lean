import Chunkwise.Proofs.Execution.Abstention
import Chunkwise.Proofs.Importable
import Chunkwise.Proofs.Session.Steps

/-!
What an event does, move by move. Each move is one change of the session with the guard under which
it is made; how code ends, what the world answers and how long things take is left open, but only
constructions and installs have to do with the installer. Every event is a chain of moves, so what
all moves keep is kept by every run.
-/
namespace Chunkwise.Session
open Chunkwise.Execution

/-- What a job is about to do. -/
inductive Task where
  | seek
  | watch (construction : Nat)
  | learn (construction : Nat) (result : Except Fault Nat)
  | enter (interpreter : Nat)
  | cross (interpreter : Nat)
  | onward (interpreter : Nat)
  | resolve (interpreter : Nat)
  /-- To probe what is left; some packages have been found missing. -/
  | search (interpreter : Nat) (left missing : List String)
  | install (interpreter : Nat) (missing : List String)
  /-- The search is over. -/
  | conclude (interpreter : Nat) (fault : Option Fault)
  | execute (interpreter : Nat)
  /-- The chunk is running. -/
  | follow (interpreter : Nat)
  | finish (result : Except Fault Value)

/-- Where the work of an event stands. -/
inductive Point where
  /-- No event is being worked on. -/
  | rest
  | picked (event : Event)
  | making (construction : Nat)
  | crossing (attempt : Nat)
  /-- The adapter source of an attempt is running. -/
  | adapting (attempt : Nat)
  | adapted (attempt : Nat)
  | job (n : Nat) (task : Task)

namespace Point

/-- Code may run here, or the world be asked. -/
def isBusy : Point → Bool
  | .making _ | .crossing _ | .adapting _ | .adapted _ => true
  | .job _ (.execute _) | .job _ (.follow _) | .job _ (.finish _) => true
  | _ => false

/-- The attempt that is under way. -/
def attempt? : Point → Option Nat
  | .crossing a | .adapting a | .adapted a => some a
  | _ => none

/-- What a job is about to do, if it is its turn. -/
def task? (n : Nat) : Point → Option Task
  | .job m task => if m = n then some task else none
  | _ => none

end Point

/-- The attempt of which something is done before its adapter source runs. -/
def Deed.striver? : Deed → Option Nat
  | .adapt _ => none
  | deed => deed.attempt?

theorem Deed.attempt?_of_striver? {deed : Deed} {a : Nat} (h : deed.striver? = some a) :
    deed.attempt? = some a := by
  cases deed
  case adapt => cases h
  all_goals exact h

/-- The attempt goes on by itself after a while. -/
def Loading.isPaused : Loading → Bool
  | .starting | .appending _ _ _ | .fetching _ => true
  | _ => false

/-- Nothing comes of an event that is taken up now. -/
def Idle (event : Event) (s : Session) : Prop :=
  match event with
  | .relay _ => False
  | .job n =>
    match s.stage? n with
    | none | some .stuck | some (.ended _) => True
    | some (.awaitingInterpreter c) => ∀ result, s.making? c ≠ some (.ended result)
    | some (.awaitingBridge _ a) => ∀ fault, s.loading? a ≠ some (.ended fault)
    | some (.queuedToResolve _) => ¬s.resolving.admits (.job n)
    | some (.queuedToRun i) => ¬(s.cell i).lock.admits (.job n)
    | _ => False
  | .construction c =>
    match s.making? c with
    | none | some (.ended _) => True
    | _ => False
  | .attempt a =>
    match s.loading? a with
    | none | some .stuck | some (.ended _) => True
    | some (.queuedToRun _) => ¬(s.cell (s.interpreterOf a)).lock.admits (.attempt a)
    | _ => False

/-- Code that waits for its next turn leaves the installer alone when it goes on. -/
structure Steady (s : Session) : Prop where
  jobs : ∀ {n i : Nat} {resume}, s.stage? n = some (.running i resume) → Abstaining resume
  attempts : ∀ {a : Nat} {resume}, s.loading? a = some (.running resume) → Abstaining resume

inductive Move : Point × Session → Point × Session → Prop
  /-- Code runs, something is noted, or the world is asked. -/
  | work {s : Session} {p : Point} (busy : p.isBusy) (world : World) (cells : List Cell)
      (locks : cells.map (·.lock) = s.cells.map (·.lock))
      (kept : s.Steady → world.installer = s.world.installer) :
      Move (p, s) (p, { s with world := world, cells := cells })
  | idle {s : Session} {event : Event} (h : Idle event s) : Move (.picked event, s) (.rest, s)
  | relay {s : Session} {n : Nat} : Move (.picked (.relay n), s) (.rest, s.wake (.job n))
  -- constructions
  | prepare {s : Session} {c : Nat} (h : s.making? c = some .starting) :
      Move (.picked (.construction c), s)
        (.making c, { s with world := s.world.prepareInstaller.2 }.did (.prepare c))
  | prepareOn {s : Session} {c : Nat} {fault : Option Fault} {turns : Nat}
      (h : s.making? c = some (.preparing fault turns)) :
      Move (.picked (.construction c), s) (.making c, s)
  | prepareLater {s : Session} {c : Nat} (fault : Option Fault) (turns : Nat) :
      Move (.making c, s)
        (.rest, (s.setConstruction c (.preparing fault turns)).wake (.construction c))
  | failConstruction {s : Session} {c : Nat} (fault : Fault) :
      Move (.making c, s) (.rest, (s.did (.prepared c false)).endConstruction c (.error fault))
  | construct {s : Session} {c : Nat} (interpreter : Interpreter) :
      Move (.making c, s)
        (.rest,
          ({ s.did (.prepared c true) with
            cells := s.cells ++ [{ interpreter := interpreter }]
            current := some s.cells.length } : Session).endConstruction c (.ok s.cells.length))
  -- attempts
  | load {s : Session} {a : Nat} {stage : Loading} (h : s.loading? a = some stage)
      (paused : stage.isPaused) :
      Move (.picked (.attempt a), s) (.crossing a, s)
  | strive {s : Session} {a : Nat} {deed : Deed} (h : deed.striver? = some a) :
      Move (.crossing a, s) (.crossing a, s.did deed)
  | loadLater {s : Session} {a : Nat} {stage : Loading} (paused : stage.isPaused) :
      Move (.crossing a, s) (.rest, (s.setAttempt a stage).wake (.attempt a))
  | adapt {s : Session} {a : Nat} (h : (s.cell (s.interpreterOf a)).lock.isFree) :
      Move (.crossing a, s)
        (.adapting a, (s.mapLock (s.interpreterOf a) Lock.take).did (.adapt a))
  | queueAdapter {s : Session} {a : Nat} (source : String)
      (h : ¬(s.cell (s.interpreterOf a)).lock.isFree) :
      Move (.crossing a, s)
        (.rest, (s.mapLock (s.interpreterOf a) (·.queue (.attempt a))).setAttempt a
          (.queuedToRun source))
  | adaptNext {s : Session} {a : Nat} {source : String}
      (h : s.loading? a = some (.queuedToRun source))
      (turn : (s.cell (s.interpreterOf a)).lock.admits (.attempt a)) :
      Move (.picked (.attempt a), s)
        (.adapting a, (s.mapLock (s.interpreterOf a) (·.takeAfter (.attempt a))).did (.adapt a))
  | adaptOn {s : Session} {a : Nat} {resume : Scene → Run (Except Fault Value)}
      (h : s.loading? a = some (.running resume)) :
      Move (.picked (.attempt a), s) (.adapting a, s)
  | adaptLater {s : Session} {a : Nat} (resume : Scene → Run (Except Fault Value))
      (abstaining : s.Steady → Abstaining resume) :
      Move (.adapting a, s) (.rest, (s.setAttempt a (.running resume)).wake (.attempt a))
  | stickAttempt {s : Session} {a : Nat} : Move (.adapting a, s) (.rest, s.setAttempt a .stuck)
  | leaveAdapter {s : Session} {a : Nat} :
      Move (.adapting a, s) (.adapted a, s.releaseRun (s.interpreterOf a))
  | settle {s : Session} {a : Nat} (success : Bool) :
      Move (.adapted a, s) (.adapted a, s.did (.settled a success))
  | arrive {s : Session} {a : Nat} : Move (.adapted a, s) (.rest, s.endAttempt a none)
  | failAttempt {s : Session} {a : Nat} (fault : Fault) :
      Move (.crossing a, s) (.rest, s.endAttempt a (some fault))
  | failAdapted {s : Session} {a : Nat} (fault : Fault) :
      Move (.adapted a, s) (.rest, s.endAttempt a (some fault))
  -- a job needs an interpreter
  | start {s : Session} {n : Nat} (h : s.stage? n = some .starting)
      (hr : ∀ i, s.request? n ≠ some (.bootstrap i)) :
      Move (.picked (.job n), s) (.job n .seek, s)
  | startCrossing {s : Session} {n i : Nat} (h : s.stage? n = some .starting)
      (hr : s.request? n = some (.bootstrap i)) :
      Move (.picked (.job n), s) (.job n (.cross i), s)
  | know {s : Session} {n i : Nat} (h : s.current = some i) :
      Move (.job n .seek, s) (.job n (.enter i), s)
  | join {s : Session} {n c : Nat} (hi : s.current = none) (h : s.construction = some c) :
      Move (.job n .seek, s) (.job n (.watch c), s)
  | found {s : Session} {n : Nat} (hi : s.current = none) (h : s.construction = none) :
      Move (.job n .seek, s) (.job n (.watch s.constructions.length), s.newConstruction)
  | watchEnded {s : Session} {n c : Nat} {result : Except Fault Nat}
      (h : s.making? c = some (.ended result)) :
      Move (.job n (.watch c), s) (.job n (.learn c result), s.did (.awaitConstruction n c))
  | watch {s : Session} {n c : Nat} (h : ∀ result, s.making? c ≠ some (.ended result)) :
      Move (.job n (.watch c), s)
        (.rest,
          ({ s.did (.awaitConstruction n c) with
            constructions := s.constructions.modify c fun k =>
              { k with watchers := k.watchers ++ [n] } } : Session).setJob n
            (.awaitingInterpreter c))
  | learn {s : Session} {n c : Nat} {result : Except Fault Nat}
      (h : s.stage? n = some (.awaitingInterpreter c))
      (hc : s.making? c = some (.ended result)) :
      Move (.picked (.job n), s) (.job n (.learn c result), s)
  | learnOk {s : Session} {n i c : Nat} : Move (.job n (.learn c (.ok i)), s) (.job n (.enter i), s)
  | forget {s : Session} {n c : Nat} {fault : Fault}
      (h : fault.kind.isOrdinary ∧ s.construction = some c) :
      Move (.job n (.learn c (.error fault)), s)
        (.job n (.finish (.error fault)), { s with construction := none })
  | learnError {s : Session} {n c : Nat} {fault : Fault}
      (h : ¬(fault.kind.isOrdinary ∧ s.construction = some c)) :
      Move (.job n (.learn c (.error fault)), s) (.job n (.finish (.error fault)), s)
  | enterHeavy {s : Session} {n i : Nat} {chunk : String}
      (h : s.request? n = some (.evaluate chunk))
      (hh : (s.scanOf n).heavy) :
      Move (.job n (.enter i), s) (.job n (.cross i), s.did (.enter n i))
  | enterLight {s : Session} {n i : Nat} {chunk : String}
      (h : s.request? n = some (.evaluate chunk))
      (hh : ¬(s.scanOf n).heavy) :
      Move (.job n (.enter i), s) (.job n (.resolve i), s.did (.enter n i))
  | enterIdle {s : Session} {n i : Nat} (h : ∀ chunk, s.request? n ≠ some (.evaluate chunk)) :
      Move (.job n (.enter i), s) (.job n (.finish (.ok .null)), s.did (.enter n i))
  -- it needs the bridge
  | crossed {s : Session} {n i : Nat} (h : s.crossing.status = .ready) :
      Move (.job n (.cross i), s) (.job n (.onward i), s)
  | watchAttempt {s : Session} {n i a : Nat} (h : s.crossing.status ≠ .ready)
      (ha : s.crossing.inflight = some a) :
      Move (.job n (.cross i), s) (.rest, s.watchAttempt n i a)
  | newAttempt {s : Session} {n i : Nat} (h : s.crossing.status ≠ .ready)
      (ha : s.crossing.inflight = none) :
      Move (.job n (.cross i), s)
        (.rest, (s.newAttempt i).watchAttempt n i s.attempts.length)
  | arrived {s : Session} {n i a : Nat} (h : s.stage? n = some (.awaitingBridge i a))
      (ha : s.loading? a = some (.ended none)) :
      Move (.picked (.job n), s) (.job n (.onward i), s)
  | strand {s : Session} {n i a : Nat} {fault : Fault} (h : s.stage? n = some (.awaitingBridge i a))
      (ha : s.loading? a = some (.ended (some fault))) :
      Move (.picked (.job n), s) (.job n (.finish (.error fault)), s)
  | onward {s : Session} {n i : Nat} {chunk : String} (h : s.request? n = some (.evaluate chunk)) :
      Move (.job n (.onward i), s) (.job n (.resolve i), s)
  | onwardIdle {s : Session} {n i : Nat} (h : ∀ chunk, s.request? n ≠ some (.evaluate chunk)) :
      Move (.job n (.onward i), s) (.job n (.finish (.ok .null)), s)
  -- it needs its packages
  | resolveNone {s : Session} {n i : Nat} (h : (s.scanOf n).roots = []) :
      Move (.job n (.resolve i), s) (.job n (.execute i), s)
  | search {s : Session} {n i : Nat} (h : (s.scanOf n).roots ≠ []) (free : s.resolving.isFree) :
      Move (.job n (.resolve i), s)
        (.job n (.search i (s.scanOf n).roots []),
          { s with resolving := s.resolving.take }.did (.search n))
  | queueSearch {s : Session} {n i : Nat} (h : (s.scanOf n).roots ≠ [])
      (free : ¬s.resolving.isFree) :
      Move (.job n (.resolve i), s)
        (.rest, { s with resolving := s.resolving.queue (.job n) }.setJob n (.queuedToResolve i))
  | searchNext {s : Session} {n i : Nat} (h : s.stage? n = some (.queuedToResolve i))
      (turn : s.resolving.admits (.job n)) :
      Move (.picked (.job n), s)
        (.job n (.search i (s.scanOf n).roots []),
          { s with resolving := s.resolving.takeAfter (.job n) }.did (.search n))
  | probe {s : Session} {n i : Nat} {root : String} {left missing : List String} (answer : Bool)
      (world : World)
      (cells : List Cell) (locks : cells.map (·.lock) = s.cells.map (·.lock))
      (keeps : ∀ name, s.world.canImport name → world.canImport name)
      (finds : s.world.canImport root → answer)
      (loads : answer → world.canImport root)
      (kept : world.installer = s.world.installer) :
      Move (.job n (.search i (root :: left) missing), s)
        (.job n (.search i left (if answer then missing else missing ++ [root])),
          { s with world := world, cells := cells }.did (.probe n root (some answer)))
  | abandon {s : Session} {n i : Nat} {root : String} {left missing : List String} (fault : Fault)
      (world : World)
      (cells : List Cell) (locks : cells.map (·.lock) = s.cells.map (·.lock))
      (kept : world.installer = s.world.installer) :
      Move (.job n (.search i (root :: left) missing), s)
        (.job n (.conclude i (some fault)),
          { s with world := world, cells := cells }.did (.probe n root none))
  | foundAll {s : Session} {n i : Nat} :
      Move (.job n (.search i [] []), s) (.job n (.conclude i none), s)
  | request {s : Session} {n i : Nat} {missing : List String} (h : missing ≠ []) :
      Move (.job n (.search i [] missing), s)
        (.job n (.install i missing), s.did (.request n missing))
  | installLater {s : Session} {n i : Nat} {missing : List String} (turns : Nat) :
      Move (.job n (.install i missing), s)
        (.rest, (s.setJob n (.installing i missing turns)).wake (.job n))
  | installOn {s : Session} {n i : Nat} {missing : List String} {turns : Nat}
      (h : s.stage? n = some (.installing i missing turns)) :
      Move (.picked (.job n), s) (.job n (.install i missing), s)
  | installed {s : Session} {n i : Nat} {missing : List String} {world : World}
      (h : s.world.install missing = (none, world)) :
      Move (.job n (.install i missing), s)
        (.job n (.conclude i none), { s with world := world }.did (.installed n missing true))
  | installFailed {s : Session} {n i : Nat} {missing : List String} {fault : Fault}
      {world : World} (h : s.world.install missing = (some fault, world)) :
      Move (.job n (.install i missing), s)
        (.job n (.conclude i (some (Packages.installFault missing fault))),
          { s with world := world }.did (.installed n missing false))
  | conclude {s : Session} {n i : Nat} :
      Move (.job n (.conclude i none), s) (.job n (.execute i), s.releaseResolving n)
  | concludeFault {s : Session} {n i : Nat} {fault : Fault} :
      Move (.job n (.conclude i (some fault)), s)
        (.job n (.finish (.error fault)), s.releaseResolving n)
  -- its code runs
  | execute {s : Session} {n i : Nat} (free : (s.cell i).lock.isFree) :
      Move (.job n (.execute i), s)
        (.job n (.follow i), (s.mapLock i Lock.take).did (.run n i))
  | queueChunk {s : Session} {n i : Nat} (free : ¬(s.cell i).lock.isFree) :
      Move (.job n (.execute i), s)
        (.rest, (s.mapLock i (·.queue (.job n))).setJob n (.queuedToRun i))
  | executeNext {s : Session} {n i : Nat} (h : s.stage? n = some (.queuedToRun i))
      (turn : (s.cell i).lock.admits (.job n)) :
      Move (.picked (.job n), s)
        (.job n (.follow i), (s.mapLock i (·.takeAfter (.job n))).did (.run n i))
  | executeOn {s : Session} {n i : Nat} {resume : Scene → Run (Except Fault Value)}
      (h : s.stage? n = some (.running i resume)) :
      Move (.picked (.job n), s) (.job n (.follow i), s)
  | executeLater {s : Session} {n i : Nat} (resume : Scene → Run (Except Fault Value))
      (abstaining : s.Steady → Abstaining resume) :
      Move (.job n (.follow i), s)
        (.rest, (s.setJob n (.running i resume)).wake (.job n))
  | stick {s : Session} {n i : Nat} : Move (.job n (.follow i), s) (.rest, s.setJob n .stuck)
  | leave {s : Session} {n i : Nat} (result : Except Fault Value) :
      Move (.job n (.follow i), s) (.job n (.finish result), s.releaseRun i)
  | finish {s : Session} {n : Nat} {result : Except Fault Value} :
      Move (.job n (.finish result), s) (.rest, s.endJob n result)

/-- Moves one after another. -/
abbrev Moves : Point × Session → Point × Session → Prop :=
  Relation.ReflTransGen Move

variable {p : Point} {s : Session} {n i a c : Nat}

/-- When an event is over it moves no further. -/
theorem not_move_rest (x : Point × Session) : ¬Move (.rest, s) x := by
  rintro ⟨⟩
  contradiction

/-! Changes of the world. -/

theorem move_world (busy : p.isBusy) (world : World)
    (kept : world.installer = s.world.installer) :
    Move (p, s) (p, { s with world := world }) :=
  .work busy world s.cells rfl fun _ => kept

theorem map_modify_eq {α β : Type} {f : α → α} {g : α → β} (h : ∀ x, g (f x) = g x) (i : Nat)
    (l : List α) : (l.modify i f).map g = l.map g := by
  apply List.ext_getElem?
  intro j
  simp only [List.getElem?_map, List.getElem?_modify]
  split <;> cases l[j]? <;> simp [h]

theorem map_modify_set {α β : Type} {f : α → α} {g : α → β} {y : β} {i : Nat} {l : List α}
    (h : ∀ x, l[i]? = some x → g (f x) = y) : (l.modify i f).map g = (l.map g).set i y := by
  induction l generalizing i with
  | nil => simp
  | cons x l ih =>
    cases i with
    | zero => simp [h x rfl]
    | succ i => simp [ih h]

/-- A change of a cell that leaves its lock alone changes no lock. -/
theorem locks_mapCell (i : Nat) {f : Cell → Cell} (h : ∀ cell, (f cell).lock = cell.lock)
    (s : Session) : (s.mapCell i f).cells.map (·.lock) = s.cells.map (·.lock) :=
  map_modify_eq h i s.cells

theorem locks_leave (i : Nat) (scene : Scene) (s : Session) :
    (s.leave i scene).cells.map (·.lock) = s.cells.map (·.lock) :=
  locks_mapCell (f := fun cell => { cell with interpreter := cell.interpreter.leftBy scene }) i
    (fun _ => rfl) s

theorem move_leave (busy : p.isBusy) (i : Nat) {scene : Scene}
    (kept : s.Steady → scene.world.installer = s.world.installer) :
    Move (p, s) (p, s.leave i scene) :=
  .work busy scene.world _ (locks_leave i scene s) kept

/-! Constructions. -/

theorem moves_settleConstruction (c : Nat) (fault : Option Fault) (s : Session) :
    Moves (.making c, s) (.rest, s.settleConstruction c fault) := by
  unfold settleConstruction
  cases fault with
  | some fault => exact .single (.failConstruction fault)
  | none =>
    let made := Interpreter.make s.world
    exact .head (move_world rfl (made.2.note .info .interpreter "Embedded runtime ready") rfl)
      (.single (.construct made.1))

theorem moves_prepare (c : Nat) (fault : Option Fault) (turns : Nat) (s : Session) :
    Moves (.making c, s) (.rest, s.prepare c fault turns) := by
  cases turns with
  | zero => exact moves_settleConstruction c fault s
  | succ turns => exact .single (.prepareLater fault turns)

theorem moves_continueConstruction (c : Nat) (s : Session) :
    Moves (.picked (.construction c), s) (.rest, s.continueConstruction c) := by
  unfold continueConstruction
  split
  next h => exact .head (.prepare h) (moves_prepare c _ _ _)
  next fault turns h => exact .head (.prepareOn h) (moves_prepare c fault turns s)
  next h => exact .single (.idle (by simp [Idle, h]))
  next h => exact .single (.idle (by simp [Idle, h]))

/-! Attempts. -/

theorem move_did (deed : Deed) (h : deed.striver? = some a) (s : Session) :
    Move (.crossing a, s) (.crossing a, s.did deed) :=
  .strive h

theorem moves_failAttempt (fault : Fault) (s : Session) (h : p = .crossing a ∨ p = .adapted a) :
    Moves (p, s) (.rest, s.failAttempt a fault) := by
  have busy : p.isBusy := by rcases h with rfl | rfl <;> rfl
  have fail : ∀ s, Moves (p, s) (.rest, s.endAttempt a (some fault)) := by
    rcases h with rfl | rfl
    · exact fun s => .single (.failAttempt fault)
    · exact fun s => .single (.failAdapted fault)
  have settle : Move (p, s) (p, s.did (.settled a false)) := by
    rcases h with rfl | rfl
    · exact .strive rfl
    · exact .settle false
  unfold failAttempt
  split
  · exact .head settle (.head (move_world busy _ (by rfl)) (fail _))
  · exact .head settle (fail _)

theorem moves_followAdapter (a : Nat) (run : Run (Except Fault Value)) (s : Session)
    (hrun : s.Steady → run.Abstains s.world.installer) :
    Moves (.adapting a, s) (.rest, s.followAdapter a (s.interpreterOf a) run) := by
  cases run with
  | exhausted => exact .single .stickAttempt
  | suspended scene resume =>
    exact .head (move_leave rfl _ fun h => (hrun h).1)
      (.single (.adaptLater resume fun h => (hrun ⟨h.jobs, h.attempts⟩).resume))
  | done result scene =>
    refine .head (move_leave rfl (s.interpreterOf a) hrun) (.head .leaveAdapter ?_)
    cases result with
    | ok v =>
      refine .head (.settle true) ?_
      simp only [followAdapter, adapterNote]
      split <;> exact .head (move_world rfl _ (by rfl)) (.single .arrive)
    | error fault => exact moves_failAttempt _ _ (.inr rfl)

theorem moves_runAdapter (a : Nat) (source : String) (s : Session) :
    Moves (.adapting a, s.did (.adapt a)) (.rest, s.runAdapter a source) :=
  moves_followAdapter a _ _ fun _ => abstains_runChunk ..

theorem moves_queueAdapter (a : Nat) (source : String) (s : Session) :
    Moves (.crossing a, s) (.rest, s.queueAdapter a source) := by
  simp only [queueAdapter]
  split
  next free => exact .head (.adapt free) (moves_runAdapter a source _)
  next busy => exact .single (.queueAdapter source busy)

theorem moves_fetchAdapter (a turns : Nat) (s : Session) :
    Moves (.crossing a, s) (.rest, s.fetchAdapter a turns) := by
  cases turns with
  | succ turns => exact .single (.loadLater rfl)
  | zero =>
    simp only [fetchAdapter]
    split
    next w hfetch =>
      exact .head (move_world rfl w (World.installer_of_fetch hfetch))
        (.head (.strive rfl) (moves_queueAdapter a _ _))
    next w hfetch =>
      exact .head (move_world rfl w (World.installer_of_fetch hfetch))
        (moves_failAttempt _ _ (.inl rfl))

/-- Binding a name changes the world at most. -/
theorem moves_bindName {fault : Option Fault} {s' : Session} {field : Settings.Field} {v : Value}
    (busy : p.isBusy) (h : s.bindName i field v = (fault, s')) : Moves (p, s) (p, s') := by
  unfold bindName at h
  split at h
  · obtain ⟨-, rfl⟩ := Prod.mk.inj h
    exact .single (move_world busy _ (by rfl))
  · split at h <;> obtain ⟨-, rfl⟩ := Prod.mk.inj h <;> exact .refl

theorem moves_bindLibrary (a : Nat) (library : Value) (s : Session) :
    Moves (.crossing a, s.did (.bind a .rawBinding)) (.rest, s.bindLibrary a library) := by
  unfold bindLibrary
  simp only
  split
  next fault s₁ h =>
    exact (moves_bindName rfl h).trans (moves_failAttempt _ _ (.inl rfl))
  next s₁ h =>
    refine (moves_bindName rfl h).trans (.head (move_did (.settled a true) rfl _)
      (.head (move_did (.wrap a (s₁.tensorOf library)) rfl _) ?_))
    split
    next w hact =>
      exact .head (move_world rfl w (World.installer_of_act hact))
        (moves_failAttempt _ _ (.inl rfl))
    next adapters w hact =>
      refine .head (move_world rfl w (World.installer_of_act hact))
        (.head (move_did (.settled a true) rfl _)
        (.head (move_did (.bind a .utilsBinding) rfl _) ?_))
      split
      next fault s₂ h =>
        exact (moves_bindName rfl h).trans (moves_failAttempt _ _ (.inl rfl))
      next s₂ h =>
        exact (moves_bindName rfl h).trans
          (.head (.strive rfl) (.head (.strive rfl) (moves_fetchAdapter a _ _)))

theorem moves_afterScripts (a : Nat) (s : Session) :
    Moves (.crossing a, s) (.rest, s.afterScripts a) := by
  unfold afterScripts
  simp only
  refine .head (move_did (.seek a s.library?) rfl s) ?_
  split
  · exact moves_failAttempt _ _ (.inl rfl)
  · split
    · exact moves_failAttempt _ _ (.inl rfl)
    · exact moves_failAttempt _ _ (.inl rfl)
    · exact .head (.strive rfl) (.head (.strive rfl) (moves_bindLibrary a _ _))

theorem moves_lookUpScript (busy : p.isBusy) (url : Datum) (s : Session) :
    Moves (p, s) (p, (lookUpScript url s).2) :=
  .single (move_world busy _ (World.loadScript_installer url s.world))

theorem moves_runHostScript (busy : p.isBusy) (url : Datum) (source : String) (s : Session) :
    Moves (p, s) (p, (s.runHostScript url source).2) := by
  unfold runHostScript
  split
  · exact .single (move_leave busy _ fun _ => runScript_installer url source _)
  · exact .single (move_world busy _ (runScript_installer url source _))

theorem moves_importScript (busy : p.isBusy) (url : Datum) (s : Session) :
    Moves (p, s) (p, (importScript url s).2) := by
  unfold importScript
  split
  · split
    next w hfetch => exact .single (move_world busy w (World.installer_of_fetch hfetch))
    next source w hfetch =>
      exact .head (move_world busy w (World.installer_of_fetch hfetch))
        (moves_runHostScript busy url source _)
  · exact moves_lookUpScript busy url s

theorem moves_importAll (a : Nat) (urls : List Datum) (s : Session) :
    Moves (.crossing a, s)
      (.crossing a, (Bridge.importAll importScript (callForAll a urls) urls s).2) :=
  Bridge.importAll_keeps (P := fun s' => Moves (.crossing a, s) (.crossing a, s'))
    (fun names s' hs => ((hs.tail (move_did (.settled a true) rfl s')).tail
      (move_did (.loadAll a urls) rfl _)).tail (move_world rfl (Bridge.importNote names s'.world) rfl))
    (fun url s' hs => hs.trans (moves_importScript rfl url s')) urls .refl

theorem moves_settleScript {next : Session → Session} {result : Option Fault × Session}
    (h : ∀ s, Moves (.crossing a, s) (.rest, next s)) :
    Moves (.crossing a, result.2) (.rest, settleScript a next result) := by
  obtain ⟨_ | fault, s⟩ := result
  · exact .head (move_did (.settled a true) rfl s) (h _)
  · exact moves_failAttempt fault s (.inl rfl)

theorem moves_settleAppend {next : Session → Session}
    (h : ∀ s, Moves (.crossing a, s) (.rest, next s)) (url : Datum) (s : Session) :
    Moves (.crossing a, s) (.rest, settleScript a next (Bridge.append lookUpScript url s)) := by
  refine .trans ?_ (moves_settleScript h)
  rw [Bridge.append_snd]
  exact moves_lookUpScript rfl url s

theorem moves_appendScripts (a : Nat) (urls : List Datum) (s : Session) :
    Moves (.crossing a, s) (.rest, s.appendScripts a urls) := by
  induction urls generalizing s with
  | nil => exact moves_afterScripts a s
  | cons url rest ih =>
    refine .head (move_did (.load a url) rfl s) ?_
    refine .head (move_world rfl (Bridge.appendNote url s.world) rfl) ?_
    simp only [appendScripts]
    split
    · exact .single (.loadLater rfl)
    · exact moves_settleAppend ih url _

theorem moves_startAttempt (a : Nat) (s : Session) :
    Moves (.crossing a, s.did (.choose a s.world.host.means)) (.rest, s.startAttempt a) := by
  simp only [startAttempt]
  generalize s!"Loading {s.heavy} dependencies (attempt {(s.crossings[s.bridgeOf a]?.map
    (·.attempts)).getD 0})" = message
  refine .head (move_world rfl (s.world.note .info .bridge message) rfl) ?_
  split
  · exact moves_failAttempt _ _ (.inl rfl)
  · exact .head (move_did (.settled a true) rfl _) (moves_appendScripts a _ _)
  · exact (moves_importAll a _ _).trans (moves_settleScript (moves_afterScripts a))

theorem moves_continueAttempt (a : Nat) (s : Session) :
    Moves (.picked (.attempt a), s) (.rest, s.continueAttempt a) := by
  unfold continueAttempt
  split
  next h => exact .head (.load h rfl) (.head (.strive rfl) (moves_startAttempt a s))
  next h => exact .head (.load h rfl) (moves_settleAppend (moves_appendScripts a _) _ s)
  next h => exact .head (.load h rfl) (.single (.loadLater rfl))
  next h => exact .head (.load h rfl) (moves_fetchAdapter a _ s)
  next h =>
    split
    next turn => exact .head (.adaptNext h turn) (moves_runAdapter a _ _)
    next busy => exact .single (.idle (by simpa [Idle, h] using busy))
  next h => exact .head (.adaptOn h) (moves_followAdapter a _ s fun hs => hs.attempts h _)
  all_goals next h => exact .single (.idle (by simp [Idle, h]))

/-! Jobs, from the last thing that they do to the first. -/

theorem installer_of_forwardValue {v : Value} {w w' : World} {fault : Option Fault}
    (h : forwardValue v w = (fault, w')) : w'.installer = w.installer := by
  obtain rfl := congrArg Prod.snd h
  unfold forwardValue
  split
  · rfl
  · split
    · rfl
    · exact World.send_installer _ w

theorem moves_concludeChunk (n i : Nat) (source : String) (result : Except Fault Value)
    (s : Session) :
    Moves (.job n (.follow i), s) (.rest, (s.releaseRun i).concludeChunk n source result) := by
  unfold concludeChunk
  split
  · exact .head (.leave _) (.single .finish)
  · split
    all_goals
      next w hforward =>
        exact .head (.leave _)
          (.head (move_world rfl w (installer_of_forwardValue hforward)) (.single .finish))

theorem moves_followChunk (n i : Nat) (source : String) (run : Run (Except Fault Value))
    (s : Session) (hrun : s.Steady → run.Abstains s.world.installer) :
    Moves (.job n (.follow i), s) (.rest, s.followChunk n i source run) := by
  cases run with
  | exhausted => exact .single .stick
  | suspended scene resume =>
    exact .head (move_leave rfl i fun h => (hrun h).1)
      (.single (.executeLater resume fun h => (hrun ⟨h.jobs, h.attempts⟩).resume))
  | done result scene =>
    exact .head (move_leave rfl i hrun) (moves_concludeChunk n i source result _)

theorem moves_startChunk (n i : Nat) (s : Session) :
    Moves (.job n (.follow i), s.did (.run n i)) (.rest, s.startChunk n i) :=
  moves_followChunk n i _ _ _ fun _ => abstains_runChunk ..

theorem moves_queueChunk (n i : Nat) (s : Session) :
    Moves (.job n (.execute i), s) (.rest, s.queueChunk n i) := by
  refine .head (move_world rfl (s.world.note .debug .evaluator
    ("Executing chunk:\n" ++ (s.scanOf n).source)) rfl) ?_
  simp only [queueChunk]
  split
  next free => exact .head (.execute free) (moves_startChunk n i _)
  next busy => exact .single (.queueChunk busy)

theorem moves_install (n i : Nat) (missing : List String) (turns : Nat) (s : Session) :
    Moves (.job n (.install i missing), s) (.rest, s.install n i missing turns) := by
  cases turns with
  | succ turns => exact .single (.installLater turns)
  | zero =>
    simp only [install]
    split
    next h => exact .head (.installed h) (.head .conclude (moves_queueChunk n i _))
    next h => exact .head (.installFailed h) (.head .concludeFault (.single .finish))

/-- Where a search stands when all packages were probed, or one could not be. -/
def searchEnd (n i : Nat) (missing : List String) : Except Fault (List String) × Session →
    Point × Session
  | (.ok names, s) => (.job n (.search i [] (missing ++ names)), s)
  | (.error fault, s) => (.job n (.conclude i (some fault)), s)

theorem environment_probe (n i : Nat) (root : String) (s : Session) :
    (environment n i).probe root s =
      ((probe root (s.scene i)).1, (s.leave i (probe root (s.scene i)).2).did
        (.probe n root (probe root (s.scene i)).1.toOption)) := rfl

theorem moves_missing (n i : Nat) (left missing : List String) (s : Session) :
    Moves (.job n (.search i left missing), s)
      (searchEnd n i missing (Packages.missing (environment n i) left s)) := by
  induction left generalizing missing s with
  | nil => simpa [Packages.missing, searchEnd] using .refl
  | cons root rest ih =>
    have hprobe := probe_canImport root (s.scene i)
    have hinstaller := probe_installer root (s.scene i)
    have hlocks := fun scene => locks_leave i scene s
    rw [Packages.missing, environment_probe]
    revert hprobe hinstaller
    obtain ⟨fault | answer, scene⟩ := probe root (s.scene i)
    · intro _ kept
      exact .single (.abandon fault scene.world _ (hlocks scene) kept)
    · intro ⟨keeps, finds, loads⟩ kept
      let entry := Packages.probeEntry root answer
      refine .head (.probe answer
        { scene.world with journal := scene.world.journal ++ [entry] } _ (hlocks scene) keeps
        (fun h => by simpa using finds h) (fun h => loads (by simp [h])) kept) ?_
      have hrest := ih (if answer then missing else missing ++ [root])
        ((environment n i).note entry ((s.leave i scene).did (.probe n root (some answer))))
      refine .trans hrest ?_
      dsimp only [Except.toOption]
      rcases Packages.missing (environment n i) rest _ with ⟨_ | names, s'⟩
      · exact .refl
      · cases answer
        · simpa [searchEnd] using .refl
        · exact .refl

theorem moves_findPackages (n i : Nat) (s : Session) :
    Moves (.job n (.search i (s.scanOf n).roots []), s.did (.search n))
      (.rest, s.findPackages n i) := by
  refine (moves_missing n i _ [] _).trans ?_
  unfold findPackages
  obtain ⟨fault | _ | ⟨first, rest⟩, s₁⟩ :=
    Packages.missing (environment n i) (s.scanOf n).roots (s.did (.search n))
  · exact .head .concludeFault (.single .finish)
  · exact .head .foundAll (.head .conclude (moves_queueChunk n i _))
  · exact .head (.request (by simp)) (moves_install n i _ _ _)

theorem moves_queueResolving (n i : Nat) (s : Session) :
    Moves (.job n (.resolve i), s) (.rest, s.queueResolving n i) := by
  unfold queueResolving
  split
  next h => exact .head (.resolveNone (by simpa using h)) (moves_queueChunk n i s)
  next h =>
    have hroots : (s.scanOf n).roots ≠ [] := by simpa using h
    split
    next free =>
      exact .head (.search hroots free)
        (moves_findPackages n i { s with resolving := s.resolving.take })
    next busy => exact .single (.queueSearch hroots busy)

theorem moves_afterBridge (n i : Nat) (s : Session) :
    Moves (.job n (.onward i), s) (.rest, s.afterBridge n i) := by
  unfold afterBridge
  split
  next h => exact .head (.onward h) (moves_queueResolving n i s)
  next h => exact .head (.onwardIdle h) (.single .finish)

theorem moves_needBridge (n i : Nat) (s : Session) :
    Moves (.job n (.cross i), s) (.rest, s.needBridge n i) := by
  unfold needBridge
  split
  next h => exact .head (.crossed h) (moves_afterBridge n i s)
  next h =>
    split
    next ha => exact .single (.watchAttempt h ha)
    next ha => exact .single (.newAttempt h ha)

theorem moves_withInterpreter (n i : Nat) (s : Session) :
    Moves (.job n (.enter i), s) (.rest, s.withInterpreter n i) := by
  simp only [withInterpreter]
  split
  next h =>
    split
    next hh => exact .head (.enterHeavy h hh) (moves_needBridge n i _)
    next hh => exact .head (.enterLight h hh) (moves_queueResolving n i _)
  next h => exact .head (.enterIdle h) (.single .finish)

theorem moves_learnInterpreter (n c : Nat) (result : Except Fault Nat) (s : Session) :
    Moves (.job n (.learn c result), s) (.rest, s.learnInterpreter n c result) := by
  unfold learnInterpreter
  split
  · exact .head .learnOk (moves_withInterpreter n _ s)
  · simp only
    split
    next h => exact .head (.forget h) (.single .finish)
    next h => exact .head (.learnError h) (.single .finish)

theorem moves_watchConstruction (n c : Nat) (s : Session) :
    Moves (.job n (.watch c), s) (.rest, s.watchConstruction n c) := by
  simp only [watchConstruction]
  split
  next h => exact .head (.watchEnded h) (moves_learnInterpreter n c _ _)
  next h => exact .single (.watch h)

theorem moves_needInterpreter (n : Nat) (s : Session) :
    Moves (.job n .seek, s) (.rest, s.needInterpreter n) := by
  unfold needInterpreter
  split
  next h => exact .head (.know h) (moves_withInterpreter n _ s)
  next hi h => exact .head (.join hi h) (moves_watchConstruction n _ s)
  next hi h => exact .head (.found hi h) (moves_watchConstruction n _ _)

theorem moves_continueJob (n : Nat) (s : Session) :
    Moves (.picked (.job n), s) (.rest, s.continueJob n) := by
  unfold continueJob
  split
  next h =>
    unfold startJob
    split
    next hr => exact .head (.startCrossing h hr) (moves_needBridge n _ s)
    next hr => exact .head (.start h hr) (moves_needInterpreter n s)
  next h =>
    split
    next hc => exact .head (.learn h hc) (moves_learnInterpreter n _ _ s)
    next hc => exact .single (.idle (by simpa [Idle, h] using hc))
  next h =>
    split
    next ha => exact .head (.arrived h ha) (moves_afterBridge n _ s)
    next ha => exact .head (.strand h ha) (.single .finish)
    next hok hfault =>
      refine .single (.idle ?_)
      simp only [Idle, h]
      rintro (_ | fault)
      · exact hok
      · exact hfault fault
  next i h =>
    split
    next turn =>
      exact .head (.searchNext h turn)
        (moves_findPackages n i { s with resolving := s.resolving.takeAfter (.job n) })
    next busy => exact .single (.idle (by simpa [Idle, h] using busy))
  next h => exact .head (.installOn h) (moves_install n _ _ _ s)
  next h =>
    split
    next turn => exact .head (.executeNext h turn) (moves_startChunk n _ _)
    next busy => exact .single (.idle (by simpa [Idle, h] using busy))
  next h => exact .head (.executeOn h) (moves_followChunk n _ _ _ s fun hs => hs.jobs h _)
  all_goals next h => exact .single (.idle (by simp [Idle, h]))

/-- An event is a chain of moves. -/
theorem moves_fire (event : Event) (s : Session) :
    Moves (.picked event, s) (.rest, s.fire event) := by
  cases event with
  | job n => exact moves_continueJob n s
  | relay n => exact .single .relay
  | construction c => exact moves_continueConstruction c s
  | attempt a => exact moves_continueAttempt a s

end Chunkwise.Session
