import Chunkwise.Session.Basic

/-!
Constructing an interpreter: the installer is made ready first. All jobs that come meanwhile join
the construction under way.
-/
namespace Chunkwise.Session

/-- Ends a construction and tells those who wait for it. -/
def endConstruction (n : Nat) (result : Except Fault Nat) (s : Session) : Session :=
  let watchers := (s.constructions[n]?.map (·.watchers)).getD []
  let fault : Option Fault := match result with
    | .ok _ => none
    | .error fault => some fault
  (s.setConstruction n (.ended result)).wakeAll (watchers.map .relay) |>.haltOn fault

/-- The interpreter is there unless the installer failed; it is the one of new evaluations. -/
def settleConstruction (n : Nat) (fault : Option Fault) (s : Session) : Session :=
  match fault with
  | some f => (s.did (.prepared n false)).endConstruction n (.error f)
  | none =>
    let s := s.did (.prepared n true)
    let i := s.cells.length
    match Interpreter.make s.world with
    | (interpreter, w) =>
      let w := w.note .info .interpreter "Embedded runtime ready"
      let cell : Cell := { interpreter := interpreter }
      { s with world := w, cells := s.cells ++ [cell], current := some i }.endConstruction n (.ok i)

/-- The turns that the installer takes to get ready. -/
def preparationTurns (w : World) : Nat :=
  match w.installer with
  | .scripted script => script.preparationTurns
  | .absent | .tool _ => 0

/-- Waits for the remaining turns before the outcome counts. -/
def prepare (n : Nat) (fault : Option Fault) (turns : Nat) (s : Session) : Session :=
  match turns with
  | 0 => s.settleConstruction n fault
  | rest + 1 => (s.setConstruction n (.preparing fault rest)).wake (.construction n)

def startConstruction (n : Nat) (s : Session) : Session :=
  let turns := preparationTurns s.world
  match s.world.prepareInstaller with
  | (fault, w) => ({ s with world := w }.did (.prepare n)).prepare n fault turns

/-- A construction goes on. -/
def continueConstruction (n : Nat) (s : Session) : Session :=
  match s.making? n with
  | some .starting => s.startConstruction n
  | some (.preparing fault turns) => s.prepare n fault turns
  | some (.ended _) | none => s

end Chunkwise.Session
