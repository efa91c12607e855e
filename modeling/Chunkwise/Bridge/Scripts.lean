import Chunkwise.World.Basic

/-!
Loading the scripts of the heavy library into a host: one after another, or all in one call.
-/
namespace Chunkwise.Bridge
open Chunkwise.World

/-- How far the bootstrap of the heavy library has come. -/
inductive Status where
  | unloaded | loading | ready | failed
  deriving DecidableEq, Repr

def Status.name : Status → String
  | .unloaded => "unloaded"
  | .loading => "loading"
  | .ready => "ready"
  | .failed => "failed"

variable {σ : Type}

/-- The ways to load scripts, chosen by what the host offers. -/
inductive Strategy where
  | each | bulk
  deriving DecidableEq, Repr

def unavailable : Fault :=
  .of .bridgeUnavailable "Neither 'document' nor 'import_scripts' is available to load scripts"

/-- A document is preferred to a call for all scripts. -/
def chooseStrategy : Means → Except Fault Strategy
  | .document => .ok .each
  | .bulk => .ok .bulk
  | .none => .error unavailable

/-- The fault of a failed load as the caller sees it: an ordinary fault that is not one of the
bridge becomes a load failure. -/
def loadFault (message : String) (fault : Fault) : Fault :=
  if fault.kind.isA .bridgeError ∨ ¬ fault.kind.isOrdinary then fault
  else (Fault.bridgeLoadFailure message none).causedBy fault

/-- What loading one script does. -/
abbrev Load (σ : Type) := Datum → σ → Option Fault × σ

/-- The loads in order, up to the first that fails. -/
def loadInOrder (load : Load σ) : List Datum → σ → Option Fault × σ
  | [], s => (none, s)
  | url :: rest, s =>
    match load url s with
    | (none, s') => loadInOrder load rest s'
    | (some fault, s') => (some fault, s')

/-- Loads in order keep what each load keeps. -/
theorem loadInOrder_keeps {load : Load σ} {P : σ → Prop} (h : ∀ url s, P s → P (load url s).2)
    (urls : List Datum) {s : σ} (hs : P s) : P (loadInOrder load urls s).2 := by
  induction urls generalizing s with
  | nil => exact hs
  | cons url rest ih =>
    have hload := h url s hs
    unfold loadInOrder
    split
    next heq =>
      rw [heq] at hload
      exact ih hload
    next heq =>
      rw [heq] at hload
      exact hload

/-- Appends one script to a document. -/
def append (load : Load σ) : Load σ := fun url s =>
  match load url s with
  | (none, s') => (none, s')
  | (some fault, s') => (some (loadFault ("Failed to load script: " ++ url.shown) fault.sealed), s')

/-- A load that fails is told of in other words; nothing else happens. -/
theorem append_snd (load : Load σ) (url : Datum) (s : σ) :
    (append load url s).2 = (load url s).2 := by
  unfold append
  split
  next h => rw [h]
  next h => rw [h]

/-- Appends the scripts to a document one after another. -/
def appendAll (load : Load σ) (urls : List Datum) (s : σ) : Option Fault × σ :=
  loadInOrder (append load) urls s

/-- Imports the scripts in one call, where all addresses must be texts. They are noted first. -/
def importAll (load : Load σ) (note : List String → σ → σ) (urls : List Datum) (s : σ) :
    Option Fault × σ :=
  match Datum.joinTexts 0 urls with
  | .error fault => (some fault, s)
  | .ok names =>
    match loadInOrder load urls (note names s) with
    | (none, s) => (none, s)
    | (some fault, s) =>
      (some (loadFault ("Failed to import scripts: " ++ commaSeparated names) fault), s)

/-- An import of all scripts keeps what the note on them and each load keep. -/
theorem importAll_keeps {load : Load σ} {note : List String → σ → σ} {P : σ → Prop}
    (hnote : ∀ names s, P s → P (note names s)) (h : ∀ url s, P s → P (load url s).2)
    (urls : List Datum) {s : σ} (hs : P s) : P (importAll load note urls s).2 := by
  unfold importAll
  split
  · exact hs
  next names _ =>
    have hload := loadInOrder_keeps h urls (hnote names s hs)
    split
    all_goals
      next heq =>
        rw [heq] at hload
        exact hload

/-- The note on a script about to be appended. -/
def appendNote (url : Datum) (w : World) : World :=
  w.note .debug .scripts s!"Appending script {url.shown}"

/-- The note on scripts about to be imported, which the host learns of together. -/
def importNote (urls : List String) (w : World) : World :=
  let w := w.note .debug .scripts ("Importing scripts " ++ commaSeparated urls)
  { w with host := { w.host with imported := w.host.imported ++ [urls.map .str] } }

/-- Loads scripts in one of the ways, noting what is about to be loaded. -/
def loadBy (load : Load World) (strategy : Strategy) (urls : List Datum) (w : World) :
    Option Fault × World :=
  match strategy with
  | .each => appendAll (fun url w => load url (appendNote url w)) urls w
  | .bulk => importAll load importNote urls w

/-- Loads scripts that the host looks up. -/
def loadScripts (strategy : Strategy) (urls : List Datum) (w : World) : Option Fault × World :=
  loadBy World.loadScript strategy urls w

end Chunkwise.Bridge
