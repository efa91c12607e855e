import Chunkwise.Bridge.Scripts

/-!
The two ways to load scripts come to the same. Both stop at the first script whose load fails, with
the names of the host as the loads before it have left them. What they tell of the failure differs
in words only, save for a fault that cannot leave work that is waited for.
-/
namespace Chunkwise.Bridge
open Chunkwise.World

variable {σ : Type}

/-- How loads in order go: what has been loaded, the load that failed, if any, and the state that
they leave. -/
structure Course (σ : Type) where
  loaded : List Datum
  failed : Option (Datum × Fault)
  final : σ

/-- The course of the loads up to the first that fails. -/
def course (load : Load σ) : List Datum → σ → Course σ
  | [], s => ⟨[], none, s⟩
  | url :: rest, s =>
    match load url s with
    | (none, s') => { course load rest s' with loaded := url :: (course load rest s').loaded }
    | (some fault, s') => ⟨[], some (url, fault), s'⟩

theorem loadInOrder_eq (load : Load σ) (urls : List Datum) (s : σ) :
    loadInOrder load urls s =
      ((course load urls s).failed.map (·.2), (course load urls s).final) := by
  induction urls generalizing s with
  | nil => rfl
  | cons url rest ih =>
    unfold loadInOrder course
    rcases load url s with ⟨_ | fault, s'⟩
    · exact ih s'
    · rfl

/-- A document tells of the failed script by its address. -/
theorem appendAll_eq (load : Load σ) (urls : List Datum) (s : σ) :
    appendAll load urls s =
      ((course load urls s).failed.map fun failed =>
          loadFault ("Failed to load script: " ++ failed.1.shown) failed.2.sealed,
        (course load urls s).final) := by
  unfold appendAll
  induction urls generalizing s with
  | nil => rfl
  | cons url rest ih =>
    unfold loadInOrder course append
    rcases load url s with ⟨_ | fault, s'⟩
    · exact ih s'
    · rfl

/-- A call for all scripts tells of all of them, whichever has failed. -/
theorem importAll_eq (load : Load σ) (note : List String → σ → σ) (urls : List String) (s : σ) :
    importAll load note (urls.map .str) s =
      ((course load (urls.map .str) (note urls s)).failed.map fun failed =>
          loadFault ("Failed to import scripts: " ++ commaSeparated urls) failed.2,
        (course load (urls.map .str) (note urls s)).final) := by
  simp only [importAll, Datum.joinTexts_texts, loadInOrder_eq]
  rcases (course load (urls.map .str) (note urls s)).failed with _ | failed <;> rfl

/-- A fault as told to the caller: one of the bridge or one that is not ordinary as it is, any other
as the cause of a load failure. -/
def Told (fault told : Fault) : Prop :=
  if fault.kind.isA .bridgeError ∨ ¬ fault.kind.isOrdinary then told = fault
  else told.kind = .bridgeLoadFailure ∧ told.cause = some fault

theorem told_loadFault (message : String) (fault : Fault) :
    Told fault (loadFault message fault) := by
  unfold Told loadFault
  split
  · rfl
  · exact ⟨rfl, rfl⟩

/-- A load that works on the names of the host, by the scripts that the host lists. The host learns
of it when it succeeds. -/
def hosted (load : List (String × Script) → Load Store) : Load World := fun url w =>
  match load w.host.scripts url w.store with
  | (none, store) =>
    (none, { w with store := store, host := { w.host with loaded := w.host.loaded ++ [url] } })
  | (some fault, store) => (some fault, { w with store := store })

/-- The load of a listed script. -/
def lookedUp (scripts : List (String × Script)) : Load Store := fun url store =>
  let script := Host.script { scripts := scripts } url
  match script.failure with
  | some plan => (some (plan.fault []), store)
  | none => (none, script.apply store)

theorem script_scripts (host : Host) (url : Datum) :
    Host.script { scripts := host.scripts } url = host.script url := by
  cases url <;> rfl

theorem loadScript_eq : World.loadScript = hosted lookedUp := by
  funext url w
  unfold World.loadScript hosted lookedUp
  rw [script_scripts]
  dsimp only
  cases (w.host.script url).failure <;> rfl

/-- The second world shows the first with other names of the host and more scripts loaded. -/
structure Shows (store : Store) (more : List Datum) (before after : World) : Prop where
  store : after.store = store
  loaded : after.host.loaded = before.host.loaded ++ more
  scripts : after.host.scripts = before.host.scripts

/-- Notes on loads touch nothing that loads read or leave. -/
abbrev Quiet (note : World → World) : Prop :=
  ∀ w, Shows w.store [] w (note w)

theorem quiet_appendNote (url : Datum) : Quiet (appendNote url) :=
  fun _ => ⟨rfl, (List.append_nil _).symm, rfl⟩

theorem quiet_importNote (urls : List String) : Quiet (importNote urls) :=
  fun _ => ⟨rfl, (List.append_nil _).symm, rfl⟩

theorem Shows.trans {store store' : Store} {more more' : List Datum} {w w' w'' : World}
    (h : Shows store more w w') (h' : Shows store' more' w' w'') :
    Shows store' (more ++ more') w w'' where
  store := h'.store
  loaded := by rw [h'.loaded, h.loaded, List.append_assoc]
  scripts := h'.scripts.trans h.scripts

/-- A load in a world goes as the load on the names of its host does. -/
theorem shows_hosted (load : List (String × Script) → Load Store) (url : Datum) (w : World) :
    (hosted load url w).1 = (load w.host.scripts url w.store).1 ∧
      Shows (load w.host.scripts url w.store).2
        (if (load w.host.scripts url w.store).1 = none then [url] else []) w
        (hosted load url w).2 := by
  unfold hosted
  rcases load w.host.scripts url w.store with ⟨_ | fault, store⟩
  · exact ⟨rfl, rfl, rfl, rfl⟩
  · exact ⟨rfl, rfl, (List.append_nil _).symm, rfl⟩

/-- Loads in a world go as the loads on the names of its host do. -/
theorem shows_course (load : List (String × Script) → Load Store) (note : Datum → World → World)
    (hnote : ∀ url, Quiet (note url)) (urls : List Datum) (w : World) :
    let inWorld := course (fun url w => hosted load url (note url w)) urls w
    let c := course (load w.host.scripts) urls w.store
    inWorld.failed = c.failed ∧ Shows c.final c.loaded w inWorld.final := by
  induction urls generalizing w with
  | nil => exact ⟨rfl, rfl, (List.append_nil _).symm, rfl⟩
  | cons url rest ih =>
    have hnoted := hnote url w
    have hload := shows_hosted load url (note url w)
    rw [hnoted.store, hnoted.scripts] at hload
    rw [course, course]
    generalize hosted load url (note url w) = inWorld at hload ⊢
    generalize load w.host.scripts url w.store = onNames at hload ⊢
    obtain ⟨_, w'⟩ := inWorld
    obtain ⟨rfl, hshows⟩ := hload
    have hshows := hnoted.trans hshows
    rcases onNames with ⟨_ | fault, store⟩
    · obtain ⟨hfailed, hrest⟩ := ih w'
      rw [hshows.store, hshows.scripts] at hfailed hrest
      exact ⟨hfailed, hshows.trans hrest⟩
    · exact ⟨rfl, hshows⟩

/-- What a caller gets who has scripts loaded: the names of the host and the scripts it has loaded
are those of the course, and a failure is told of as one of the fault that `leaving` makes of it. -/
structure Yields (c : Course Store) (before : World) (leaving : Fault → Fault)
    (outcome : Option Fault × World) : Prop where
  store : outcome.2.store = c.final
  loaded : outcome.2.host.loaded = before.host.loaded ++ c.loaded
  succeeds : outcome.1 = none ↔ c.failed = none
  told : ∀ url fault, c.failed = some (url, fault) →
    ∃ told, outcome.1 = some told ∧ Told (leaving fault) told

theorem Shows.yields {c : Course Store} {before after : World}
    (h : Shows c.final c.loaded before after) (leaving : Fault → Fault)
    (message : Datum → String) :
    Yields c before leaving
      (c.failed.map fun failed => loadFault (message failed.1) (leaving failed.2), after) where
  store := h.store
  loaded := h.loaded
  succeeds := Option.map_eq_none_iff
  told := by
    intro url fault hfault
    rw [hfault]
    exact ⟨_, rfl, told_loadFault ..⟩

/-- Whatever the loads do to the names of the host, both ways follow their course. -/
theorem yields_loadBy (load : List (String × Script) → Load Store) (urls : List String)
    (w : World) :
    let c := course (load w.host.scripts) (urls.map .str) w.store
    Yields c w Fault.sealed (loadBy (hosted load) .each (urls.map .str) w) ∧
      Yields c w id (loadBy (hosted load) .bulk (urls.map .str) w) := by
  refine ⟨?_, ?_⟩
  · obtain ⟨hfailed, hshows⟩ := shows_course load appendNote quiet_appendNote (urls.map .str) w
    rw [loadBy, appendAll_eq, hfailed]
    exact hshows.yields Fault.sealed fun url => "Failed to load script: " ++ url.shown
  · have hnoted := quiet_importNote urls w
    obtain ⟨hfailed, hshows⟩ := shows_course load (fun _ w => w)
      (fun _ _ => ⟨rfl, (List.append_nil _).symm, rfl⟩) (urls.map .str) (importNote urls w)
    rw [hnoted.store, hnoted.scripts] at hfailed hshows
    rw [loadBy, importAll_eq, hfailed]
    exact (hnoted.trans hshows).yields id fun _ =>
      "Failed to import scripts: " ++ commaSeparated urls

/-- The course of the listed scripts: the longest prefix without a script that fails. -/
theorem course_lookedUp (host : Host) (urls : List Datum) (store : Store) :
    let done := urls.takeWhile fun url => (host.script url).failure.isNone
    course (lookedUp host.scripts) urls store =
      { loaded := done
        failed := urls.findSome? fun url =>
          (host.script url).failure.map fun plan => (url, plan.fault [])
        final := done.foldl (fun store url => (host.script url).apply store) store } := by
  induction urls generalizing store with
  | nil => rfl
  | cons url rest ih =>
    have hload : lookedUp host.scripts url store =
        match (host.script url).failure with
        | some plan => (some (plan.fault []), store)
        | none => (none, (host.script url).apply store) := by
      rw [lookedUp, script_scripts]
    rw [course, hload]
    cases hfailure : (host.script url).failure with
    | none => simp [hfailure, ih]
    | some plan => simp [hfailure]

/-- The two ways to load scripts agree. Whatever each load does to the names of the host and
whatever fault it ends with, both leave the names of the host and the list of loaded scripts as the
loads up to the first failure do, and both fail if one has failed; a call for all scripts tells of
the fault itself, a document of what the fault is outside the work that is waited for. Listed
scripts are loaded up to the first of them that is to fail. -/
theorem strategies_agree (urls : List String) (w : World) :
    (∀ load : List (String × Script) → Load Store,
      let c := course (load w.host.scripts) (urls.map .str) w.store
      Yields c w Fault.sealed (loadBy (hosted load) .each (urls.map .str) w) ∧
        Yields c w id (loadBy (hosted load) .bulk (urls.map .str) w)) ∧
    (let done := (urls.map Datum.str).takeWhile fun url => (w.host.script url).failure.isNone
      let c : Course Store :=
        { loaded := done
          failed := (urls.map Datum.str).findSome? fun url =>
            (w.host.script url).failure.map fun plan => (url, plan.fault [])
          final := done.foldl (fun store url => (w.host.script url).apply store) w.store }
      Yields c w Fault.sealed (loadScripts .each (urls.map .str) w) ∧
        Yields c w id (loadScripts .bulk (urls.map .str) w)) := by
  refine ⟨fun load => yields_loadBy load urls w, ?_⟩
  have hlisted := yields_loadBy lookedUp urls w
  rw [course_lookedUp] at hlisted
  simp only [loadScripts, loadScript_eq]
  exact hlisted

/-- A script that is out of items: a call for all scripts tells of that fault as the cause, a
document of another. -/
theorem strategies_apart_stopIteration :
    let plan : Plan := { kind := .stopIteration, message := "no more items" }
    let w : World := { host := { scripts := [("a", { failure := some plan })] } }
    let cause (strategy : Strategy) := (loadScripts strategy [.str "a"] w).1.bind (·.cause)
    cause .bulk = some (plan.fault []) ∧ cause .each ≠ some (plan.fault []) := by
  refine ⟨rfl, fun h => ?_⟩
  have hkinds := congrArg (·.map Fault.kind) h
  exact absurd hkinds (by decide)

end Chunkwise.Bridge
