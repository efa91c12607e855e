import Chunkwise.Execution.Scene

/-!
Running code: it ends, or it lets others take a turn and goes on from the scene that they leave.
Code that fails raises an exception, which collects the places that it passes on its way out.
-/
namespace Chunkwise.Execution

inductive Run (α : Type) where
  | done (result : α) (scene : Scene)
  | suspended (scene : Scene) (resume : Scene → Run α)
  /-- The bound on the length of a run was too small. -/
  | exhausted

namespace Run

variable {α β γ : Type}

/-- A run followed by another. -/
def andThen : Run α → (α → Scene → Run β) → Run β
  | .done a s, next => next a s
  | .suspended s resume, next => .suspended s fun s' => (resume s').andThen next
  | .exhausted, _ => .exhausted

theorem andThen_done (r : Run α) : r.andThen .done = r := by
  induction r with
  | done => rfl
  | suspended s resume ih => simp [andThen, ih]
  | exhausted => rfl

theorem andThen_assoc (r : Run α) (f : α → Scene → Run β) (g : β → Scene → Run γ) :
    (r.andThen f).andThen g = r.andThen fun a s => (f a s).andThen g := by
  induction r with
  | done => rfl
  | suspended s resume ih => simp [andThen, ih]
  | exhausted => rfl

end Run

/-- An exception on its way out, with the places that it has passed, outermost first. -/
structure Raised where
  exception : Address
  trace : List Place := []
  deriving DecidableEq, Repr

/-- The exception on its way out of a place. -/
def Raised.passing (place : Place) (r : Raised) : Raised :=
  { r with trace := place :: r.trace }

/-- A computation that gives a value or raises an exception. -/
def Eval (α : Type) : Type :=
  Scene → Run (Except Raised α)

namespace Eval

variable {α β : Type}

def give (a : α) : Eval α := fun s => .done (.ok a) s

def bind (m : Eval α) (next : α → Eval β) : Eval β := fun s =>
  (m s).andThen fun result s' =>
    match result with
    | .ok a => next a s'
    | .error raised => .done (.error raised) s'

instance : Monad Eval where
  pure := give
  bind := bind

def throw (raised : Raised) : Eval α := fun s => .done (.error raised) s

/-- A step on the scene that may fail: its fault is raised as a new exception. -/
def step (f : Scene → Except Fault α × Scene) : Eval α := fun s =>
  match f s with
  | (.ok a, s) => .done (.ok a) s
  | (.error fault, s) =>
    match s.act (fun store => match store.loadFault fault with
      | (a, store) => (.ok a, store)) with
    | (.ok a, s) => .done (.error ⟨a, fault.trace⟩) s
    | (.error _, s) => .done (.error ⟨0, []⟩) s

/-- A step on the store. -/
def act (action : Store.Action α) : Eval α :=
  step fun s => s.act action

/-- Raises a fault. -/
def fail (fault : Fault) : Eval α :=
  step fun s => (.error fault, s)

def ofExcept (result : Except Fault α) : Eval α :=
  match result with
  | .ok a => give a
  | .error fault => fail fault

/-- The result of a computation, whether it fails or not. -/
def attempt (m : Eval α) : Eval (Except Raised α) := fun s =>
  (m s).andThen fun result s' => .done (.ok result) s'

/-- A computation goes on from the result of another. -/
def ofResult : Except Raised α → Eval α
  | .ok a => give a
  | .error raised => throw raised

/-- Changes what a computation raises. -/
def mapRaised (f : Raised → Raised) (m : Eval α) : Eval α := fun s =>
  (m s).andThen fun result s' => .done (result.mapError f) s'

/-- Lets others take a turn. -/
def turn : Eval Unit := fun s =>
  .suspended s fun s' => .done (.ok ()) s'

def exhausted : Eval α := fun _ => .exhausted

/-- Rounds from a state on, until one gives a result. There is a bound on their number. -/
def rounds (round : α → Eval (α ⊕ β)) : Nat → α → Scene → Run (Except Raised β)
  | 0, _, _ => .exhausted
  | n + 1, a, s =>
    match round a s with
    | .done (.ok (.inl a')) s' => rounds round n a' s'
    | .done (.ok (.inr b)) s' => .done (.ok b) s'
    | .done (.error raised) s' => .done (.error raised) s'
    | .exhausted => .exhausted
    | .suspended s' resume => .suspended s' fun s'' =>
      (resume s'').andThen fun result t =>
        match result with
        | .ok (.inl a') => rounds round n a' t
        | .ok (.inr b) => .done (.ok b) t
        | .error raised => .done (.error raised) t

/-- A round is followed by the others or by its result. -/
theorem rounds_succ (round : α → Eval (α ⊕ β)) (n : Nat) (a : α) :
    rounds round (n + 1) a = bind (round a) fun
      | .inl a' => rounds round n a'
      | .inr b => give b := by
  funext s
  simp only [rounds, bind]
  cases round a s with
  | done result t => rcases result with _ | (_ | _) <;> rfl
  | suspended t resume =>
    simp only [Run.andThen]
    congr 1
    funext t'
    congr 1
    funext result t''
    rcases result with _ | (_ | _) <;> rfl
  | exhausted => rfl

/-- Reads something of the scene. -/
def read (f : Scene → α) : Eval α := fun s => .done (.ok (f s)) s

/-- Reads something of the store. -/
def look (f : Store → α) : Eval α := fun s => .done (.ok (f s.store)) s

/-- Reads something of the store, which may fail. -/
def check (f : Store → Except Fault α) : Eval α := fun s =>
  ofExcept (f s.store) s

/-- Changes the scene. -/
def mapScene (f : Scene → Scene) : Eval Unit := fun s => .done (.ok ()) (f s)

/-- Changes the store. -/
def change (f : Store → Store) : Eval Unit :=
  mapScene fun s => s.mapWorld (·.mapStore f)

/-- A step on the scene that gives nothing. -/
def perform (f : Scene → Option Fault × Scene) : Eval Unit :=
  step fun s =>
    match f s with
    | (none, s) => (.ok (), s)
    | (some fault, s) => (.error fault, s)

def write (text : String) : Eval Unit := perform (Scene.write text.toList)

/-! Exceptions as objects. -/

/-- The exception at an address. -/
def exceptionAt (store : Store) (a : Address) : Exception :=
  match store.nature? a with
  | some (.exception e) => e
  | _ => { kind := .exception }

/-- Keeps with an exception the places that it has passed; it has been caught. -/
def keepTrace (raised : Raised) : Eval Unit :=
  change fun store =>
    store.setNature raised.exception
      (.exception { exceptionAt store raised.exception with trace := raised.trace })

/-- Raises an exception with the places that it has passed before. -/
def raiseAgain (a : Address) : Eval α := do
  let e ← look fun store => exceptionAt store a
  throw ⟨a, e.trace⟩

end Eval

end Chunkwise.Execution
