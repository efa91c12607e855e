import Chunkwise.Import.Chunk
import Chunkwise.Packages.Resolution
import Chunkwise.Proofs.World.Leaves
import Chunkwise.Session.Evaluate

/-!
How an evaluation goes when nothing else happens. Each stage takes the world from where the one
before has left it, and the first that fails ends the evaluation; how long things take does not
matter.
-/
namespace Chunkwise.Session
open Chunkwise.Execution Chunkwise.World

variable {settings : Settings} {it : Interpreter} {n i a : Nat} {w : World}

/-! The heavy library. -/

/-- Loads the scripts of the heavy library, in the way that the host offers. -/
def loadHeavy (settings : Settings) (w : World) : Option Fault × World :=
  match Bridge.chooseStrategy w.host.means with
  | .error fault => (some fault, w)
  | .ok .each => Bridge.loadScripts .each settings.scriptUrls w
  | .ok .bulk =>
    Bridge.importAll (World.importScript (settings.get .httpTimeout)) Bridge.importNote
      settings.scriptUrls w

/-- The name of the heavy library, if it is one. -/
def heavyName? (settings : Settings) : Option String :=
  match settings.get .heavyDependency with
  | .str name => some name
  | _ => none

/-- The library among the names of the host. -/
def heavyValue? (settings : Settings) (w : World) : Option Value :=
  ((heavyName? settings).bind w.hostNames.get?).filter (!·.isNull)

/-- Looks for the library when the scripts are loaded. -/
def seekHeavy (settings : Settings) (w : World) : Except Fault Value :=
  match (settings.get .heavyDependency).hashed with
  | .error fault => .error fault
  | .ok _ =>
    match heavyValue? settings w with
    | some library => .ok library
    | none =>
      .error (.bridgeLoadFailure
        (settings.text .heavyDependency ++ " global not found after loading scripts") none)

/-- Loads the scripts and looks for the library. -/
def findHeavy (settings : Settings) (w : World) : Except Fault Value × World :=
  match loadHeavy settings w with
  | (some fault, w) => (.error fault, w)
  | (none, w) => (seekHeavy settings w, w)

/-- Binds the name that a setting gives for the chunks of an interpreter. -/
def bindSetting (settings : Settings) (it : Interpreter) (field : Settings.Field) (v : Value)
    (w : World) : Option Fault × World :=
  match settings.get field with
  | .str name => (none, it.bind name v w)
  | key =>
    match key.hashed with
    | .ok _ => (none, w)
    | .error fault => (some fault, w)

/-- Binds the library and the adapters around it. -/
def bindHeavy (settings : Settings) (it : Interpreter) (library : Value) (w : World) :
    Option Fault × World :=
  match bindSetting settings it .rawBinding library w with
  | (some fault, w) => (some fault, w)
  | (none, w) =>
    match w.act (Bridge.makeAdapters library) with
    | (.error fault, w) => (some fault, w)
    | (.ok adapters, w) => bindSetting settings it .utilsBinding adapters w

/-- The library is found and bound, and the adapter source is at hand. -/
structure Fetches (settings : Settings) (it : Interpreter) (w : World) (library : Value)
    (reply : Except Fault String) (w' : World) : Prop where
  found : (findHeavy settings w).1 = .ok library
  bound : (bindHeavy settings it library (findHeavy settings w).2).1 = none
  fetched : (bindHeavy settings it library (findHeavy settings w).2).2.fetch
    (settings.get .adapterUrl) (settings.get .httpTimeout) false = (reply, w')

/-- What comes of an attempt whose adapter source has run. -/
def adapted : Except Fault Value → Option Fault
  | .ok _ => none
  | .error fault => some (adapterFault fault)

/-- The adapter source runs, with its fault if it fails. There is no outcome when the bound of the
evaluation was too small. -/
inductive Adapts (settings : Settings) (it : Interpreter) (source : String) (w : World) :
    Option (Option Fault) → World → Prop
  | ended {result : Except Fault Value} {w₁ : World}
      (hr : it.run (settings.get .filename) source w = some (result, it, w₁)) :
      Adapts settings it source w (some (adapted result)) w₁
  | stuck (hr : it.run (settings.get .filename) source w = none) :
      Adapts settings it source w none w

/-- An attempt to load the heavy library, with its fault if it fails and the adapter source if that
is run. -/
inductive Crosses (settings : Settings) (it : Interpreter) (w : World) :
    Option (Option Fault) → World → Option String → Prop
  | lost {fault : Fault} {w₁ : World} (h : findHeavy settings w = (.error fault, w₁)) :
      Crosses settings it w (some (some fault)) w₁ none
  | unbound {library : Value} {fault : Fault} {w₁ w₂ : World}
      (h : findHeavy settings w = (.ok library, w₁))
      (hb : bindHeavy settings it library w₁ = (some fault, w₂)) :
      Crosses settings it w (some (some fault)) w₂ none
  | unfetched {library : Value} {fault : Fault} {w₁ : World}
      (h : Fetches settings it w library (.error fault) w₁) :
      Crosses settings it w (some (some (fetchFault (settings.get .adapterUrl) fault))) w₁ none
  | fetched {library : Value} {source : String} {outcome : Option (Option Fault)} {w₁ w₂ : World}
      (h : Fetches settings it w library (.ok source) w₁)
      (ha : Adapts settings it source w₁ outcome w₂) :
      Crosses settings it w outcome w₂ (some source)

/-- What is done for an attempt: scripts are loaded, and the adapter source is fetched and run if it
comes to that. -/
structure Toils (a : Nat) (adapter : Option String) (deeds : List Deed) : Prop where
  mine : ∀ deed ∈ deeds, deed.attempt? = some a
  adapts : .adapt a ∈ deeds ↔ adapter.isSome

/-! Packages. -/

/-- A search for packages by one job: what is missing, or the fault of the probe that failed. -/
inductive Searches (it : Interpreter) (n : Nat) :
    List String → World → Except Fault (List String) → World → List Deed → Prop
  | done {w : World} : Searches it n [] w (.ok []) w []
  | abandoned {root : String} {rest : List String} {fault : Fault} {w w₁ : World}
      (h : it.probe root w = (.error fault, it, w₁)) :
      Searches it n (root :: rest) w (.error fault) w₁ [.probe n root none]
  | probed {root : String} {rest : List String} {answer : Bool}
      {result : Except Fault (List String)} {w w₁ w₂ : World} {deeds : List Deed}
      (h : it.probe root w = (.ok answer, it, w₁))
      (hs : Searches it n rest (w₁.noting [Packages.probeEntry root answer]) result w₂ deeds) :
      Searches it n (root :: rest) w
        (result.map fun names => if answer then names else root :: names) w₂
        (.probe n root (some answer) :: deeds)

/-- The package that is probed. -/
def Deed.probed? : Deed → Option String
  | .probe _ root _ => some root
  | _ => none

/-- The packages that are probed, in order. -/
def rootsProbed (deeds : List Deed) : List String :=
  deeds.filterMap Deed.probed?

@[simp] theorem rootsProbed_append (deeds more : List Deed) :
    rootsProbed (deeds ++ more) = rootsProbed deeds ++ rootsProbed more :=
  List.filterMap_append

@[simp] theorem rootsProbed_cons (deed : Deed) (deeds : List Deed) :
    rootsProbed (deed :: deeds) = deed.probed?.toList ++ rootsProbed deeds := by
  simp only [rootsProbed, List.filterMap_cons]
  cases deed.probed? <;> rfl

@[simp] theorem rootsProbed_nil : rootsProbed [] = [] := rfl

/-- No package is probed by what is no part of a search. -/
theorem rootsProbed_of_searcher? {deeds : List Deed} (h : ∀ deed ∈ deeds, deed.searcher? = none) :
    rootsProbed deeds = [] := by
  simp only [rootsProbed, List.filterMap_eq_nil_iff]
  intro deed hdeed
  have hnone := h deed hdeed
  cases deed <;> first | rfl | simp [Deed.searcher?] at hnone

/-- A package could not be probed, or packages were not provided. -/
def Deed.fails : Deed → Bool
  | .probe _ _ none | .installed _ _ false => true
  | _ => false

/-- A chunk's packages are looked for and installed. -/
inductive Resolves (it : Interpreter) (n : Nat) (roots : List String) (w : World) :
    Option Fault → World → List Deed → Prop
  | nothing (h : roots = []) : Resolves it n roots w none w []
  | abandoned {fault : Fault} {w₁ : World} {deeds : List Deed}
      (hs : Searches it n roots w (.error fault) w₁ deeds) :
      Resolves it n roots w (some fault) w₁ (.search n :: deeds ++ [.searched n])
  | found {w₁ : World} {deeds : List Deed} (h : roots ≠ [])
      (hs : Searches it n roots w (.ok []) w₁ deeds) :
      Resolves it n roots w none w₁ (.search n :: deeds ++ [.searched n])
  | installed {missing : List String} {w₁ w₂ : World} {deeds : List Deed} (h : missing ≠ [])
      (hs : Searches it n roots w (.ok missing) w₁ deeds)
      (hi : w₁.install missing = (none, w₂)) :
      Resolves it n roots w none w₂
        (.search n :: deeds ++ [.request n missing, .installed n missing true, .searched n])
  | refused {missing : List String} {fault : Fault} {w₁ w₂ : World} {deeds : List Deed}
      (h : missing ≠ []) (hs : Searches it n roots w (.ok missing) w₁ deeds)
      (hi : w₁.install missing = (some fault, w₂)) :
      Resolves it n roots w (some (Packages.installFault missing fault)) w₂
        (.search n :: deeds ++ [.request n missing, .installed n missing false, .searched n])

/-! The chunk's code. -/

/-- A world with the note on a chunk about to run. -/
def announced (source : String) (w : World) : World :=
  w.noting [⟨.debug, .evaluator, "Executing chunk:\n" ++ source⟩]

/-- What comes of an evaluation whose code has run: its value is forwarded. -/
def concluded (file : Datum) (source : String) (result : Except Fault Value) (w : World) :
    Except Fault Value × World :=
  match result with
  | .error fault => (.error (executionFault file source fault), w)
  | .ok v =>
    match forwardValue v w with
    | (none, w) => (.ok v, w)
    | (some fault, w) => (.error fault, w)

/-- The code of a chunk runs and its value is forwarded. There is no outcome when the bound of the
evaluation was too small. -/
inductive Executes (it : Interpreter) (file : Datum) (source : String) (w : World) :
    Option (Except Fault Value) → World → Prop
  | ended {result : Except Fault Value} {w₁ : World}
      (hr : it.run file source (announced source w) = some (result, it, w₁)) :
      Executes it file source w (some (concluded file source result w₁).1)
        (concluded file source result w₁).2
  | stuck (hr : it.run file source (announced source w) = none) : Executes it file source w none w

/-- What is left of an evaluation when its interpreter and the heavy library are there. -/
inductive Finishes (it : Interpreter) (file : Datum) (n i : Nat) (scan : Import.Scan) (w : World) :
    Option (Except Fault Value) → World → List Deed → Prop
  | unresolved {fault : Fault} {w₁ : World} {deeds : List Deed}
      (h : Resolves it n scan.roots w (some fault) w₁ deeds) :
      Finishes it file n i scan w (some (.error fault)) w₁ deeds
  | resolved {outcome : Option (Except Fault Value)} {w₁ w₂ : World} {deeds : List Deed}
      (h : Resolves it n scan.roots w none w₁ deeds)
      (he : Executes it file scan.source w₁ outcome w₂) :
      Finishes it file n i scan w outcome w₂ (deeds ++ [.run n i])

/-! The whole of it. -/

/-- What a chunk asks for. -/
def asked (settings : Settings) (chunk : String) : Import.Scan :=
  match heavyName? settings with
  | some name => Import.scan name chunk
  | none => Import.scanSpelling (settings.text .heavyDependency) chunk

/-- An evaluation gets the interpreter that is there or makes one, or it fails as the construction
does. -/
inductive Enters (s : Session) (n : Nat) :
    Except Fault (Nat × Interpreter) → World → List Deed → Prop
  | present {i : Nat} (h : s.current = some i) :
      Enters s n (.ok (i, (s.cell i).interpreter)) s.world []
  | known {c : Nat} {fault : Fault} (h : s.current = none) (hc : s.construction = some c)
      (hm : s.making? c = some (.ended (.error fault))) :
      Enters s n (.error fault) s.world [.awaitConstruction n c]
  | failed {fault : Fault} {w : World} (h : s.current = none) (hc : s.construction = none)
      (hp : s.world.prepareInstaller = (some fault, w)) :
      Enters s n (.error fault) w
        [.awaitConstruction n s.constructions.length, .prepare s.constructions.length,
          .prepared s.constructions.length false]
  | made {w : World} (h : s.current = none) (hc : s.construction = none)
      (hp : s.world.prepareInstaller = (none, w)) :
      Enters s n (.ok (s.cells.length, (Interpreter.make w).1))
        ((Interpreter.make w).2.note .info .interpreter "Embedded runtime ready")
        [.awaitConstruction n s.constructions.length, .prepare s.constructions.length,
          .prepared s.constructions.length true]

/-- The chunk needs the heavy library, which is not loaded. -/
def NeedsBridge (s : Session) (scan : Import.Scan) : Prop :=
  scan.heavy ∧ s.crossing.status ≠ .ready

/-- An evaluation goes on in its interpreter: the heavy library is loaded if need be, and then all
the rest is done. -/
inductive Proceeds (s : Session) (it : Interpreter) (n i : Nat) (scan : Import.Scan) (w : World) :
    Option (Except Fault Value) → World → List Deed → Prop
  | straight {outcome : Option (Except Fault Value)} {w₁ : World} {deeds : List Deed}
      (hn : ¬NeedsBridge s scan) (hf : Finishes it s.file n i scan w outcome w₁ deeds) :
      Proceeds s it n i scan w outcome w₁ deeds
  | uncrossed {fault : Fault} {entries more : List Entry} {w₁ : World} {deeds : List Deed}
      {adapter : Option String} (hn : NeedsBridge s scan)
      (hc : Crosses s.settings it (w.noting entries) (some (some fault)) w₁ adapter)
      (hd : Toils s.attempts.length adapter deeds) :
      Proceeds s it n i scan w (some (.error fault)) (w₁.noting more)
        (.awaitAttempt n s.attempts.length :: deeds)
  | crossed {outcome : Option (Except Fault Value)} {entries more : List Entry} {w₁ w₂ : World}
      {deeds later : List Deed} {adapter : Option String} (hn : NeedsBridge s scan)
      (hc : Crosses s.settings it (w.noting entries) (some none) w₁ adapter)
      (hd : Toils s.attempts.length adapter deeds)
      (hf : Finishes it s.file n i scan (w₁.noting more) outcome w₂ later) :
      Proceeds s it n i scan w outcome w₂
        (.awaitAttempt n s.attempts.length :: deeds ++ .crossed s.attempts.length i :: later)
  | stuck {entries : List Entry} {w₁ : World} {deeds : List Deed} {adapter : Option String}
      (hn : NeedsBridge s scan) (hc : Crosses s.settings it (w.noting entries) none w₁ adapter)
      (hd : Toils s.attempts.length adapter deeds) :
      Proceeds s it n i scan w none w₁ (.awaitAttempt n s.attempts.length :: deeds)

/-- The evaluation of a chunk by a session in which nothing else is under way. -/
inductive Course (s : Session) (n : Nat) (chunk : String) :
    Option (Except Fault Value) → World → List Deed → Prop
  | unbuilt {fault : Fault} {w : World} {deeds : List Deed}
      (h : Enters s n (.error fault) w deeds) : Course s n chunk (some (.error fault)) w deeds
  | entered {i : Nat} {it : Interpreter} {outcome : Option (Except Fault Value)} {w w₁ : World}
      {deeds more : List Deed} (h : Enters s n (.ok (i, it)) w deeds)
      (hp : Proceeds s it n i (asked s.settings chunk) w outcome w₁ more) :
      Course s n chunk outcome w₁ (deeds ++ .enter n i :: more)

end Chunkwise.Session
