import Chunkwise.Proofs.Session.Renewal.Past

/-!
A past makes no difference. Whatever is done in a session is done in the same way behind a past:
each function of a session commutes with putting a past in front of it.
-/
namespace Chunkwise.Session
open Chunkwise.Execution

namespace Past

variable {past : Past} {s : Session} {n i a b c : Nat}

/-! Numbers are shifted in events, stages and deeds as a whole. -/

@[simp] theorem event_job (n : Nat) : Event.job (past.task n) = past.event (.job n) := rfl

@[simp] theorem event_construction (c : Nat) :
    Event.construction (past.building c) = past.event (.construction c) := rfl

@[simp] theorem event_attempt (a : Nat) : Event.attempt (past.trial a) = past.event (.attempt a) :=
  rfl

theorem relays (watchers : List Nat) :
    (watchers.map past.task).map Event.relay = (watchers.map Event.relay).map past.event := by
  simp only [List.map_map]
  rfl

/-! Constructions. -/

theorem before_endConstruction (c : Nat) (result : Except Fault Nat) :
    (past.before s).endConstruction (past.building c) (past.made result) =
      past.before (s.endConstruction c result) := by
  have hwatchers : (((past.before s).constructions[past.building c]?.map (·.watchers)).getD []) =
      ((s.constructions[c]?.map (·.watchers)).getD []).map past.task := by
    simp only [before, building, getElem?_behind]
    cases s.constructions[c]? <;> rfl
  have hstage : (past.before s).setConstruction (past.building c) (.ended (past.made result)) =
      past.before (s.setConstruction c (.ended result)) :=
    past.before_setConstruction s c (.ended result)
  simp only [endConstruction, hwatchers, hstage, relays, before_wakeAll]
  cases result <;> rfl

theorem before_settleConstruction (c : Nat) (fault : Option Fault) :
    (past.before s).settleConstruction (past.building c) fault =
      past.before (s.settleConstruction c fault) := by
  cases fault with
  | some fault =>
    have hdid := past.before_did s (.prepared c false)
    refine Eq.trans ?_ (before_endConstruction (s := s.did (.prepared c false)) c (.error fault))
    rw [← hdid]
    rfl
  | none =>
    let made := Interpreter.make s.world
    let s' : Session :=
      { s.did (.prepared c true) with
        world := made.2.note .info .interpreter "Embedded runtime ready"
        cells := s.cells ++ [{ interpreter := made.1 }]
        current := some s.cells.length }
    refine Eq.trans ?_ (before_endConstruction (s := s') c (.ok s.cells.length))
    have hlength : (past.before s).cells.length = past.interpreter s.cells.length := by
      simp [before, interpreter]
    have hbefore : past.before s' =
        { (past.before s).did (.prepared (past.building c) true) with
          world := made.2.note .info .interpreter "Embedded runtime ready"
          cells := (past.before s).cells ++ [{ interpreter := made.1 }]
          current := some (past.before s).cells.length } := by
      rw [hlength]
      simp [s', before, did, deed, cell, lock]
    have hmade : past.made (.ok s.cells.length) = .ok (past.before s).cells.length := by
      rw [hlength]
      rfl
    rw [hbefore, hmade]
    rfl

theorem before_prepare (c : Nat) (fault : Option Fault) (turns : Nat) :
    (past.before s).prepare (past.building c) fault turns =
      past.before (s.prepare c fault turns) := by
  cases turns with
  | zero => exact before_settleConstruction c fault
  | succ turns =>
    have hstage := past.before_setConstruction s c (.preparing fault turns)
    refine Eq.trans ?_ (past.before_wake _ (.construction c))
    rw [← hstage]
    rfl

theorem before_startConstruction (c : Nat) :
    (past.before s).startConstruction (past.building c) = past.before (s.startConstruction c) := by
  let s' : Session := { s with world := s.world.prepareInstaller.2 }
  refine Eq.trans ?_ (before_prepare (s := s'.did (.prepare c)) c s.world.prepareInstaller.1
    (preparationTurns s.world))
  rw [← before_did]
  rfl

theorem before_continueConstruction (c : Nat) :
    (past.before s).continueConstruction (past.building c) =
      past.before (s.continueConstruction c) := by
  simp only [continueConstruction, before_making?]
  rcases s.making? c with _ | _ | _ | _
  · rfl
  · exact before_startConstruction c
  · exact before_prepare c _ _
  · rfl

/-! Attempts. -/

theorem before_bridgeOf (ha : a < s.attempts.length) :
    (past.before s).bridgeOf (past.trial a) = past.bridge (s.bridgeOf a) := by
  simp [bridgeOf, before, trial, ha, attempt]

theorem before_interpreterOf (ha : a < s.attempts.length) :
    (past.before s).interpreterOf (past.trial a) = past.interpreter (s.interpreterOf a) := by
  simp [interpreterOf, before, trial, ha, attempt]

theorem before_endAttempt (ha : a < s.attempts.length) (fault : Option Fault) :
    (past.before s).endAttempt (past.trial a) fault = past.before (s.endAttempt a fault) := by
  have hwatchers : (((past.before s).attempts[past.trial a]?.map (·.watchers)).getD []) =
      ((s.attempts[a]?.map (·.watchers)).getD []).map past.task := by
    simp only [before, trial, getElem?_behind]
    cases s.attempts[a]? <;> rfl
  have hland (s : Session) (b : Nat) (status : Bridge.Status) :
      (past.before s).mapCrossing (past.bridge b)
          (fun c => { c with status := status, inflight := none }) =
        past.before (s.mapCrossing b fun c => { c with status := status, inflight := none }) :=
    before_mapCrossing (f := fun c => { c with status := status, inflight := none })
      (fun _ => rfl) b
  cases fault with
  | none =>
    have hdid :
        (past.before s).did (.crossed (past.trial a) (past.interpreter (s.interpreterOf a))) =
          past.before (s.did (.crossed a (s.interpreterOf a))) := past.before_did s (.crossed a _)
    simp only [endAttempt, Option.isNone_none, if_true, before_interpreterOf ha, hdid]
    have hb := past.before_bridgeOf (s := s.did (.crossed a (s.interpreterOf a))) ha
    have hwatchers' : (((past.before (s.did (.crossed a (s.interpreterOf a)))).attempts[
        past.trial a]?.map (·.watchers)).getD []) =
      ((s.attempts[a]?.map (·.watchers)).getD []).map past.task := hwatchers
    rw [hb, hland, before_setAttempt, hwatchers', relays, before_wakeAll]
    rfl
  | some fault =>
    simp only [endAttempt, Option.isNone_some, Bool.false_eq_true, if_false, before_bridgeOf ha,
      hland, before_setAttempt, hwatchers, relays, before_wakeAll, before_haltOn]

theorem before_settled (a : Nat) (success : Bool) :
    (past.before s).did (.settled (past.trial a) success) = past.before (s.did (.settled a success)) :=
  past.before_did s (.settled a success)

theorem before_failAttempt (ha : a < s.attempts.length) (fault : Fault) :
    (past.before s).failAttempt (past.trial a) fault = past.before (s.failAttempt a fault) := by
  simp only [failAttempt, before_settled]
  have ha₁ : a < (s.did (.settled a false)).attempts.length := ha
  generalize s.did (.settled a false) = s₁ at ha₁
  rcases fault.render with _ | shown
  · exact before_endAttempt ha₁ _
  · exact before_endAttempt (s := s₁.mapWorld
      (·.note .error .bridge s!"Error setting up {s₁.heavy} bridge: {shown}")) ha₁ _

theorem before_adapterNote (i : Nat) :
    (past.before s).adapterNote (past.interpreter i) = past.before (s.adapterNote i) := by
  simp only [adapterNote, before_interpreter, before_heavy, before_name?, before_world]
  split <;> rfl

theorem before_releaseRun (i : Nat) :
    (past.before s).releaseRun (past.interpreter i) = past.before (s.releaseRun i) := by
  have hwoken : ((past.before s).cell (past.interpreter i)).lock.waiting.head?.toList =
      (s.cell i).lock.waiting.head?.toList.map past.event := by
    rw [before_lock, head?_lock]
    cases (s.cell i).lock.waiting.head? <;> rfl
  rw [releaseRun, hwoken, past.before_mapLock _ release_lock, before_wakeAll]
  rfl

theorem before_followAdapter (ha : a < s.attempts.length) (i : Nat)
    (run : Run (Except Fault Value)) :
    (past.before s).followAdapter (past.trial a) (past.interpreter i) run =
      past.before (s.followAdapter a i run) := by
  cases run with
  | exhausted => exact before_setAttempt a .stuck
  | suspended scene resume =>
    simp only [followAdapter, before_leave, before_setAttempt]
    exact past.before_wake _ (.attempt a)
  | done result scene =>
    simp only [followAdapter, before_leave, before_releaseRun]
    cases result with
    | ok v =>
      have ha₁ : a < (((s.leave i scene).releaseRun i).did (.settled a true)).attempts.length := ha
      simp only [before_settled]
      generalize ((s.leave i scene).releaseRun i).did (.settled a true) = s₁ at ha₁
      rw [before_adapterNote]
      refine before_endAttempt ?_ none
      simp only [adapterNote]
      split <;> exact ha₁
    | error fault => exact before_failAttempt (s := (s.leave i scene).releaseRun i) ha _

theorem before_runAdapter (ha : a < s.attempts.length) (source : String) :
    (past.before s).runAdapter (past.trial a) source = past.before (s.runAdapter a source) := by
  have hdid : (past.before s).did (.adapt (past.trial a)) = past.before (s.did (.adapt a)) :=
    past.before_did s (.adapt a)
  simp only [runAdapter, hdid, before_interpreterOf ha, before_interpreter, before_file,
    before_scene]
  exact before_followAdapter (s := s.did (.adapt a)) ha _ _

theorem before_queueAdapter (ha : a < s.attempts.length) (source : String) :
    (past.before s).queueAdapter (past.trial a) source = past.before (s.queueAdapter a source) := by
  have hqueue := past.before_mapLock s
    (f := fun l => l.queue (.attempt a)) (g := fun l => l.queue (.attempt (past.trial a)))
    (fun l => past.queue_lock (.attempt a) l)
  simp only [queueAdapter, before_interpreterOf ha, before_lock, isFree_lock,
    past.before_mapLock _ take_lock, hqueue, before_setAttempt]
  split
  · exact before_runAdapter (s := s.mapLock (s.interpreterOf a) Lock.take) ha source
  · rfl

theorem before_fetchAdapter (ha : a < s.attempts.length) (turns : Nat) :
    (past.before s).fetchAdapter (past.trial a) turns = past.before (s.fetchAdapter a turns) := by
  cases turns with
  | succ turns =>
    simp only [fetchAdapter, before_setAttempt]
    exact past.before_wake _ (.attempt a)
  | zero =>
    simp only [fetchAdapter, before_settings, before_world]
    rcases s.world.fetch (s.settings.get .adapterUrl) (s.settings.get .httpTimeout) false with
      ⟨_ | source, w⟩
    · exact before_failAttempt (s := { s with world := w }) ha _
    · refine Eq.trans ?_ (before_queueAdapter
        (s := ({ s with world := w } : Session).did (.settled a true)) ha source)
      rw [← before_settled]
      rfl

theorem before_bindName (i : Nat) (field : Settings.Field) (v : Value) :
    (past.before s).bindName (past.interpreter i) field v =
      ((s.bindName i field v).1, past.before (s.bindName i field v).2) := by
  simp only [bindName, before_settings, before_interpreter]
  split
  · rfl
  · split <;> rfl

theorem attempts_bindName (i : Nat) (field : Settings.Field) (v : Value) (s : Session) :
    (s.bindName i field v).2.attempts = s.attempts := by
  unfold bindName
  split
  · rfl
  · split <;> rfl

theorem before_bindLibrary (ha : a < s.attempts.length) (library : Value) :
    (past.before s).bindLibrary (past.trial a) library = past.before (s.bindLibrary a library) := by
  have hbind (field : Settings.Field) (s : Session) :
      (past.before s).did (.bind (past.trial a) field) = past.before (s.did (.bind a field)) :=
    past.before_did s (.bind a field)
  have hwrap (tensor : Option Value) (s : Session) :
      (past.before s).did (.wrap (past.trial a) tensor) = past.before (s.did (.wrap a tensor)) :=
    past.before_did s (.wrap a tensor)
  have hfetch (s : Session) :
      (past.before s).did (.fetch (past.trial a)) = past.before (s.did (.fetch a)) :=
    past.before_did s (.fetch a)
  have hbound {s : Session} (field : Settings.Field) (v : Value) (i : Nat)
      (h : a < s.attempts.length) : a < (s.bindName i field v).2.attempts.length := by
    rwa [attempts_bindName]
  have hraw := hbound (s := s.did (.bind a .rawBinding)) .rawBinding library (s.interpreterOf a) ha
  simp only [bindLibrary, before_interpreterOf ha, hbind, before_bindName]
  generalize (s.did (.bind a .rawBinding)).bindName (s.interpreterOf a) .rawBinding library = raw
    at hraw
  obtain ⟨_ | fault, s₁⟩ := raw
  · have htensor : (past.before s₁).tensorOf library = s₁.tensorOf library := rfl
    dsimp only
    generalize s₁.tensorOf library = tensor at htensor ⊢
    have hwrapped : a < ((s₁.did (.settled a true)).did (.wrap a tensor)).attempts.length := hraw
    simp only [htensor, before_settled, hwrap]
    generalize (s₁.did (.settled a true)).did (.wrap a tensor) = s₂ at hwrapped
    simp only [before_world]
    rcases s₂.world.act (Bridge.makeAdapters library) with ⟨_ | adapters, w⟩
    · exact before_failAttempt (s := { s₂ with world := w }) hwrapped _
    · let s₃ : Session := { s₂ with world := w }
      have hutils := hbound (s := (s₃.did (.settled a true)).did (.bind a .utilsBinding))
        .utilsBinding adapters (s.interpreterOf a) hwrapped
      have hbefore : ((({ past.before s₂ with world := w } : Session).did
          (.settled (past.trial a) true)).did (.bind (past.trial a) .utilsBinding)) =
          past.before ((s₃.did (.settled a true)).did (.bind a .utilsBinding)) := by
        rw [← hbind, ← before_settled]
        rfl
      dsimp only at hbefore ⊢
      rw [hbefore, before_bindName]
      generalize ((s₃.did (.settled a true)).did (.bind a .utilsBinding)).bindName
        (s.interpreterOf a) .utilsBinding adapters = utils at hutils
      obtain ⟨_ | fault, s₄⟩ := utils
      · dsimp only
        rw [before_settled, hfetch]
        exact before_fetchAdapter (s := (s₄.did (.settled a true)).did (.fetch a)) hutils _
      · exact before_failAttempt hutils fault
  · exact before_failAttempt hraw fault

theorem before_afterScripts (ha : a < s.attempts.length) :
    (past.before s).afterScripts (past.trial a) = past.before (s.afterScripts a) := by
  have hseek (found : Option Value) :
      (past.before s).did (.seek (past.trial a) found) = past.before (s.did (.seek a found)) :=
    past.before_did s (.seek a found)
  have hlibrary (s : Session) : (past.before s).library? = s.library? := rfl
  have ha₁ : a < (s.did (.seek a s.library?)).attempts.length := ha
  simp only [afterScripts, hlibrary, hseek]
  generalize s.did (.seek a s.library?) = s₁ at ha₁
  simp only [before_settings, before_heavy, before_failAttempt ha₁]
  rcases (s₁.settings.get .heavyDependency).hashed with fault | _
  · rfl
  · rcases s₁.library? with _ | library
    · rfl
    · cases library <;> first
        | rfl
        | (dsimp only
           rw [before_settled]
           exact before_bindLibrary (s := s₁.did (.settled a true)) ha₁ _)

theorem before_settleScript {next next' : Session → Session} {result : Option Fault × Session}
    (ha : a < result.2.attempts.length)
    (hnext : ∀ s : Session, a < s.attempts.length → next' (past.before s) = past.before (next s)) :
    settleScript (past.trial a) next' (result.1, past.before result.2) =
      past.before (settleScript a next result) := by
  obtain ⟨_ | fault, s⟩ := result
  · simp only [settleScript]
    rw [before_settled]
    exact hnext _ ha
  · exact before_failAttempt ha fault

theorem before_lookUpScript (url : Datum) :
    lookUpScript url (past.before s) =
      ((lookUpScript url s).1, past.before (lookUpScript url s).2) := rfl

theorem before_append (url : Datum) :
    Bridge.append lookUpScript url (past.before s) =
      ((Bridge.append lookUpScript url s).1, past.before (Bridge.append lookUpScript url s).2) := by
  simp only [Bridge.append, before_lookUpScript]
  rcases lookUpScript url s with ⟨_ | fault, s'⟩ <;> rfl

theorem attempts_append (url : Datum) (s : Session) :
    (Bridge.append lookUpScript url s).2.attempts = s.attempts := by
  rw [Bridge.append_snd]
  rfl

theorem before_appendScripts (urls : List Datum) (ha : a < s.attempts.length) :
    (past.before s).appendScripts (past.trial a) urls = past.before (s.appendScripts a urls) := by
  induction urls generalizing s with
  | nil => exact before_afterScripts ha
  | cons url rest ih =>
    have hdid :
        (past.before s).did (.load (past.trial a) url) = past.before (s.did (.load a url)) :=
      past.before_did s (.load a url)
    have ha₁ : a < ((s.did (.load a url)).mapWorld (Bridge.appendNote url)).attempts.length := ha
    simp only [appendScripts, hdid, before_mapWorld, before_world]
    generalize (s.did (.load a url)).mapWorld (Bridge.appendNote url) = s₁ at ha₁
    cases s₁.world.host.turns with
    | zero =>
      have ha₂ : a < (Bridge.append lookUpScript url s₁).2.attempts.length := by
        rwa [attempts_append]
      rw [before_append]
      exact before_settleScript ha₂ fun _ => ih
    | succ turns =>
      simp only [before_setAttempt]
      exact past.before_wake _ (.attempt a)

theorem before_running? : (past.before s).running? = s.running?.map past.interpreter := by
  have hpast : past.cells.findIdx? (·.lock.held) = none :=
    List.findIdx?_eq_none_iff.mpr fun cell hcell => past.unheld cell hcell
  simp only [running?, before, List.findIdx?_append, hpast, Option.none_or, List.findIdx?_map]
  refine Option.map_congr fun i _ => ?_
  exact Nat.add_comm i past.cells.length

theorem before_runHostScript (url : Datum) (source : String) :
    (past.before s).runHostScript url source =
      ((s.runHostScript url source).1, past.before (s.runHostScript url source).2) := by
  simp only [runHostScript, before_running?, before_world]
  rcases s.running? with _ | i
  · rfl
  · simp only [Option.map_some, before_scene, before_leave]

theorem before_importScript (url : Datum) :
    importScript url (past.before s) =
      ((importScript url s).1, past.before (importScript url s).2) := by
  simp only [importScript, before_world, before_settings]
  by_cases h : s.world.host.runsScripts = true
  · simp only [h, if_true]
    rcases s.world.fetch url (s.settings.get .httpTimeout) true with ⟨_ | source, w⟩
    · rfl
    · exact before_runHostScript (s := { s with world := w }) url source
  · simp only [h]
    rfl

theorem before_loadInOrder (urls : List Datum) (s : Session) :
    Bridge.loadInOrder importScript urls (past.before s) =
      ((Bridge.loadInOrder importScript urls s).1,
        past.before (Bridge.loadInOrder importScript urls s).2) := by
  induction urls generalizing s with
  | nil => rfl
  | cons url rest ih =>
    simp only [Bridge.loadInOrder, before_importScript]
    rcases importScript url s with ⟨_ | fault, s'⟩
    · exact ih s'
    · rfl

theorem before_callForAll (a : Nat) (urls : List Datum) (names : List String) :
    callForAll (past.trial a) urls names (past.before s) = past.before (callForAll a urls names s) := by
  have hcall (s : Session) : (past.before s).did (.loadAll (past.trial a) urls) =
      past.before (s.did (.loadAll a urls)) :=
    past.before_did s (.loadAll a urls)
  simp only [callForAll, before_settled, hcall, before_mapWorld]

theorem before_importAll (a : Nat) (urls : List Datum) :
    Bridge.importAll importScript (callForAll (past.trial a) urls) urls (past.before s) =
      ((Bridge.importAll importScript (callForAll a urls) urls s).1,
        past.before (Bridge.importAll importScript (callForAll a urls) urls s).2) := by
  simp only [Bridge.importAll, before_callForAll, before_loadInOrder]
  rcases Datum.joinTexts 0 urls with fault | names
  · rfl
  · dsimp only
    rcases Bridge.loadInOrder importScript urls (callForAll a urls names s) with
      ⟨_ | fault, s'⟩ <;> rfl

theorem attempts_runHostScript (url : Datum) (source : String) (s : Session) :
    (s.runHostScript url source).2.attempts = s.attempts := by
  unfold runHostScript
  split <;> rfl

theorem attempts_importScript (url : Datum) (s : Session) :
    (importScript url s).2.attempts = s.attempts := by
  unfold importScript
  split
  · split
    · rfl
    · exact attempts_runHostScript url _ _
  · rfl

theorem attempts_importAll (a : Nat) (urls : List Datum) (s : Session) :
    (Bridge.importAll importScript (callForAll a urls) urls s).2.attempts = s.attempts := by
  refine Bridge.importAll_keeps (P := fun s' : Session => s'.attempts = s.attempts) ?_ ?_ urls rfl
  · exact fun _ _ hs => hs
  · exact fun url s' hs => (attempts_importScript url s').trans hs

theorem before_startAttempt (ha : a < s.attempts.length) :
    (past.before s).startAttempt (past.trial a) = past.before (s.startAttempt a) := by
  have hnumber : (((past.before s).crossings[(past.before s).bridgeOf (past.trial a)]?.map
      (·.attempts)).getD 0) = ((s.crossings[s.bridgeOf a]?.map (·.attempts)).getD 0) := by
    rw [before_bridgeOf ha]
    simp only [before, bridge, getElem?_behind]
    cases s.crossings[s.bridgeOf a]? <;> rfl
  simp only [startAttempt, hnumber, before_heavy, before_settings, before_mapWorld, before_world]
  generalize hs₁ : s.mapWorld _ = s₁
  have hchoose : (past.before s₁).did (.choose (past.trial a) s₁.world.host.means) =
      past.before (s₁.did (.choose a s₁.world.host.means)) :=
    past.before_did s₁ (.choose a s₁.world.host.means)
  rw [hchoose]
  have ha₂ : a < (s₁.did (.choose a s₁.world.host.means)).attempts.length := hs₁ ▸ ha
  generalize s₁.did (.choose a s₁.world.host.means) = s₂ at ha₂
  simp only [before_world]
  rcases Bridge.chooseStrategy s₂.world.host.means with fault | _ | _
  · exact before_failAttempt ha₂ fault
  · dsimp only
    rw [before_settled]
    exact before_appendScripts (s := s₂.did (.settled a true)) _ ha₂
  · have ha₃ : a < (Bridge.importAll importScript (callForAll a s₁.settings.scriptUrls)
        s₁.settings.scriptUrls s₂).2.attempts.length := by
      rwa [attempts_importAll]
    simp only [before_importAll]
    exact before_settleScript ha₃ fun _ => before_afterScripts

theorem lt_of_loading? {stage : Loading} (h : s.loading? a = some stage) :
    a < s.attempts.length := by
  obtain ⟨made, hmade, -⟩ := Option.map_eq_some_iff.mp h
  exact (List.getElem?_eq_some_iff.mp hmade).1

theorem before_continueAttempt (a : Nat) :
    (past.before s).continueAttempt (past.trial a) = past.before (s.continueAttempt a) := by
  rcases hstage : s.loading? a with _ | stage
  · simp only [continueAttempt, before_loading?, hstage]
  · have ha := lt_of_loading? hstage
    simp only [continueAttempt, before_loading?, hstage]
    cases stage with
    | starting => exact before_startAttempt ha
    | appending url rest turns =>
      cases turns with
      | zero =>
        have ha₁ : a < (Bridge.append lookUpScript url s).2.attempts.length := by
          rwa [attempts_append]
        simp only [before_append]
        exact before_settleScript ha₁ fun _ => before_appendScripts rest
      | succ turns =>
        simp only [before_setAttempt]
        exact past.before_wake _ (.attempt a)
    | fetching turns => exact before_fetchAdapter ha turns
    | queuedToRun source =>
      have hadmits := past.admits_event (.attempt a) (s.cell (s.interpreterOf a)).lock
      have htake := past.before_mapLock s
        (f := fun l => l.takeAfter (.attempt a))
        (g := fun l => l.takeAfter (past.event (.attempt a)))
        (fun l => takeAfter_lock (.attempt a) l)
      simp only [before_interpreterOf ha, before_lock, event_attempt, hadmits, htake]
      split
      · exact before_runAdapter (s := s.mapLock (s.interpreterOf a) (·.takeAfter (.attempt a))) ha
          source
      · rfl
    | running resume =>
      simp only [before_interpreterOf ha, before_scene]
      exact before_followAdapter ha _ _
    | stuck => rfl
    | ended fault => rfl

/-! Jobs. -/

theorem before_endJob (n : Nat) (result : Except Fault Value) :
    (past.before s).endJob (past.task n) result = past.before (s.endJob n result) :=
  past.before_setJob s n (.ended result)

theorem before_concludeChunk (n : Nat) (source : String) (result : Except Fault Value) :
    (past.before s).concludeChunk (past.task n) source result =
      past.before (s.concludeChunk n source result) := by
  cases result with
  | error fault => exact before_endJob n _
  | ok v =>
    simp only [concludeChunk, before_world]
    rcases forwardValue v s.world with ⟨_ | fault, w⟩
    · exact before_endJob (s := { s with world := w }) n (.ok v)
    · exact before_endJob (s := { s with world := w }) n (.error fault)

theorem before_followChunk (n i : Nat) (source : String) (run : Run (Except Fault Value)) :
    (past.before s).followChunk (past.task n) (past.interpreter i) source run =
      past.before (s.followChunk n i source run) := by
  cases run with
  | exhausted => exact past.before_setJob s n .stuck
  | suspended scene resume =>
    have hstage := past.before_setJob (s.leave i scene) n (.running i resume)
    refine Eq.trans ?_ (past.before_wake _ (.job n))
    rw [← hstage, ← before_leave]
    rfl
  | done result scene =>
    simp only [followChunk, before_leave, before_releaseRun, before_concludeChunk]

theorem before_startChunk (n i : Nat) :
    (past.before s).startChunk (past.task n) (past.interpreter i) =
      past.before (s.startChunk n i) := by
  have hdid : (past.before s).did (.run (past.task n) (past.interpreter i)) =
      past.before (s.did (.run n i)) := past.before_did s (.run n i)
  simp only [startChunk, hdid, before_scanOf, before_interpreter, before_file, before_scene,
    before_followChunk]

theorem before_queueChunk (n i : Nat) :
    (past.before s).queueChunk (past.task n) (past.interpreter i) =
      past.before (s.queueChunk n i) := by
  simp only [queueChunk, before_scanOf, before_mapWorld]
  generalize s.mapWorld _ = s₁
  have hqueue := past.before_mapLock s₁
    (f := fun l => l.queue (.job n)) (g := fun l => l.queue (.job (past.task n)))
    (fun l => past.queue_lock (.job n) l) i
  simp only [before_lock, isFree_lock, past.before_mapLock _ take_lock, hqueue]
  split
  · exact before_startChunk n i
  · exact past.before_setJob _ n (.queuedToRun i)

theorem before_releaseResolving (n : Nat) :
    (past.before s).releaseResolving (past.task n) = past.before (s.releaseResolving n) := by
  let s' : Session :=
    { s with resolving := s.resolving.release }.wakeAll s.resolving.waiting.head?.toList
  refine Eq.trans ?_ (past.before_did s' (.searched n))
  have hwoken : (past.before s).resolving.waiting.head?.toList =
      s.resolving.waiting.head?.toList.map past.event := by
    rw [before_resolving, head?_lock]
    cases s.resolving.waiting.head? <;> rfl
  rw [releaseResolving, hwoken, ← before_wakeAll]
  rfl

theorem before_install (n i : Nat) (missing : List String) (turns : Nat) :
    (past.before s).install (past.task n) (past.interpreter i) missing turns =
      past.before (s.install n i missing turns) := by
  cases turns with
  | succ turns =>
    have hstage := past.before_setJob s n (.installing i missing turns)
    refine Eq.trans ?_ (past.before_wake _ (.job n))
    rw [← hstage]
    rfl
  | zero =>
    simp only [install, before_world]
    rcases s.world.install missing with ⟨_ | fault, w⟩
    · let s' : Session := { s with world := w }
      have hdid := past.before_did s' (.installed n missing true)
      refine Eq.trans ?_
        (before_queueChunk (s := (s'.did (.installed n missing true)).releaseResolving n) n i)
      rw [← before_releaseResolving, ← hdid]
      rfl
    · let s' : Session := { s with world := w }
      have hdid := past.before_did s' (.installed n missing false)
      refine Eq.trans ?_
        (before_endJob (s := (s'.did (.installed n missing false)).releaseResolving n) n
          (.error (Packages.installFault missing fault)))
      rw [← before_releaseResolving, ← hdid]
      rfl

theorem before_probe (n i : Nat) (root : String) :
    (environment (past.task n) (past.interpreter i)).probe root (past.before s) =
      (((environment n i).probe root s).1, past.before ((environment n i).probe root s).2) := by
  simp only [environment, before_scene, before_leave]
  refine Prod.ext rfl ?_
  exact past.before_did (s.leave i (probe root (s.scene i)).2)
    (.probe n root (probe root (s.scene i)).1.toOption)

theorem before_missing (n i : Nat) (roots : List String) (s : Session) :
    Packages.missing (environment (past.task n) (past.interpreter i)) roots (past.before s) =
      ((Packages.missing (environment n i) roots s).1,
        past.before (Packages.missing (environment n i) roots s).2) := by
  induction roots generalizing s with
  | nil => rfl
  | cons root rest ih =>
    simp only [Packages.missing, before_probe]
    rcases (environment n i).probe root s with ⟨fault | importable, s₁⟩
    · rfl
    · have hnote : (environment (past.task n) (past.interpreter i)).note
          (Packages.probeEntry root importable) (past.before s₁) =
            past.before ((environment n i).note (Packages.probeEntry root importable) s₁) := rfl
      simp only [hnote, ih]
      rcases Packages.missing (environment n i) rest
        ((environment n i).note (Packages.probeEntry root importable) s₁) with
        ⟨_ | names, s₂⟩ <;> rfl

theorem before_findPackages (n i : Nat) :
    (past.before s).findPackages (past.task n) (past.interpreter i) =
      past.before (s.findPackages n i) := by
  have hdid : (past.before s).did (.search (past.task n)) = past.before (s.did (.search n)) :=
    past.before_did s (.search n)
  simp only [findPackages, hdid, before_scanOf, before_missing]
  rcases Packages.missing (environment n i) (s.scanOf n).roots (s.did (.search n)) with
    ⟨fault | _ | ⟨first, rest⟩, s₁⟩
  · simp only [before_releaseResolving, before_endJob]
  · simp only [before_releaseResolving, before_queueChunk]
  · have hrequest : (past.before s₁).did (.request (past.task n) (first :: rest)) =
        past.before (s₁.did (.request n (first :: rest))) :=
      past.before_did s₁ (.request n (first :: rest))
    simp only [hrequest, before_world, before_install]

theorem before_queueResolving (n i : Nat) :
    (past.before s).queueResolving (past.task n) (past.interpreter i) =
      past.before (s.queueResolving n i) := by
  simp only [queueResolving, before_scanOf, before_resolving, isFree_lock]
  split
  · exact before_queueChunk n i
  · split
    · exact before_findPackages (s := { s with resolving := s.resolving.take }) n i
    · let s' : Session := { s with resolving := s.resolving.queue (.job n) }
      have hbefore : past.before s' =
          { past.before s with
            resolving := (past.lock s.resolving).queue (.job (past.task n)) } := by
        have hqueue := past.queue_lock (.job n) s.resolving
        rw [event_job, hqueue]
        rfl
      refine Eq.trans ?_ (past.before_setJob s' n (.queuedToResolve i))
      rw [hbefore]
      rfl

theorem before_afterBridge (n i : Nat) :
    (past.before s).afterBridge (past.task n) (past.interpreter i) =
      past.before (s.afterBridge n i) := by
  simp only [afterBridge, before_request?]
  rcases s.request? n with _ | _ | _ | _
  · exact before_endJob n _
  · exact before_queueResolving n i
  · exact before_endJob n _
  · exact before_endJob n _

theorem before_newAttempt (i : Nat) :
    (past.before s).newAttempt (past.interpreter i) = past.before (s.newAttempt i) := by
  let a := s.attempts.length
  let begun (c : Crossing) : Crossing :=
    { c with status := .loading, attempts := c.attempts + 1, inflight := some a }
  let begun' (c : Crossing) : Crossing :=
    { c with status := .loading, attempts := c.attempts + 1, inflight := some (past.trial a) }
  let made : Attempt := { bridge := s.bridge, interpreter := i }
  let s' : Session :=
    { s.mapCrossing s.bridge begun with attempts := s.attempts ++ [made] }
  have hlength : (past.before s).attempts.length = past.trial s.attempts.length := by
    simp [before, trial]
  have hcrossing : (past.before s).mapCrossing (past.bridge s.bridge) begun' =
      past.before (s.mapCrossing s.bridge begun) :=
    before_mapCrossing (f := begun) (fun _ => rfl) s.bridge
  have hbefore : past.before s' =
      { (past.before s).mapCrossing (past.bridge s.bridge) begun' with
        attempts := (past.before s).attempts ++ [past.attempt made] } := by
    rw [hcrossing]
    simp [s', before, mapCrossing]
  refine Eq.trans ?_ (past.before_wake s' (.attempt a))
  rw [hbefore]
  simp only [newAttempt, hlength]
  rfl

theorem before_watchAttempt (n i a : Nat) :
    (past.before s).watchAttempt (past.task n) (past.interpreter i) (past.trial a) =
      past.before (s.watchAttempt n i a) := by
  let s₁ := s.did (.awaitAttempt n a)
  let s' : Session :=
    { s₁ with attempts := s.attempts.modify a fun made =>
        { made with watchers := made.watchers ++ [n] } }
  have hmodify := modify_behind past.attempts s.attempts (f := past.attempt)
    (g := fun made => { made with watchers := made.watchers ++ [past.task n] })
    (h := fun made => { made with watchers := made.watchers ++ [n] })
    (fun made => by simp [attempt]) a
  have hbefore : past.before s' =
      { (past.before s).did (.awaitAttempt (past.task n) (past.trial a)) with
        attempts := (past.before s).attempts.modify (past.trial a) fun made =>
          { made with watchers := made.watchers ++ [past.task n] } } := by
    simp only [s', s₁, before, did, trial, hmodify, List.map_append, List.append_assoc]
    rfl
  refine Eq.trans ?_ (past.before_setJob s' n (.awaitingBridge i a))
  rw [hbefore]
  rfl

theorem before_needBridge (n i : Nat) :
    (past.before s).needBridge (past.task n) (past.interpreter i) =
      past.before (s.needBridge n i) := by
  have hstatus : (past.before s).crossing.status = s.crossing.status := by
    rw [before_crossing]
    rfl
  have hinflight : (past.before s).crossing.inflight = s.crossing.inflight.map past.trial := by
    rw [before_crossing]
    rfl
  have hlength : (past.before s).attempts.length = past.trial s.attempts.length := by
    simp [before, trial]
  simp only [needBridge, hstatus, hinflight, hlength]
  split
  · exact before_afterBridge n i
  · rcases s.crossing.inflight with _ | a
    · simp only [Option.map_none, before_newAttempt, before_watchAttempt]
    · exact before_watchAttempt n i a

theorem before_withInterpreter (n i : Nat) :
    (past.before s).withInterpreter (past.task n) (past.interpreter i) =
      past.before (s.withInterpreter n i) := by
  have hdid : (past.before s).did (.enter (past.task n) (past.interpreter i)) =
      past.before (s.did (.enter n i)) := past.before_did s (.enter n i)
  simp only [withInterpreter, hdid, before_request?, before_scanOf]
  rcases (s.did (.enter n i)).request? n with _ | _ | _ | _
  · exact before_endJob n _
  · simp only [Option.map_some, request]
    split
    · exact before_needBridge n i
    · exact before_queueResolving n i
  · exact before_endJob n _
  · exact before_endJob n _

theorem before_learnInterpreter (n c : Nat) (result : Except Fault Nat) :
    (past.before s).learnInterpreter (past.task n) (past.building c) (past.made result) =
      past.before (s.learnInterpreter n c result) := by
  cases result with
  | ok i => exact before_withInterpreter n i
  | error fault =>
    have hlatest : (past.before s).construction = some (past.building c) ↔
        s.construction = some c := by
      rw [before_construction, ← Option.map_some,
        (Option.map_injective building_injective).eq_iff]
    simp only [learnInterpreter, made, Except.map, hlatest]
    split
    · exact before_endJob (s := { s with construction := none }) n _
    · exact before_endJob n _

theorem before_newConstruction :
    (past.before s).newConstruction = past.before s.newConstruction := by
  let s' : Session :=
    { s with
      constructions := s.constructions ++ [({} : Construction)]
      construction := some s.constructions.length }
  have hlength : (past.before s).constructions.length = past.building s.constructions.length := by
    simp [before, building]
  have hbefore : past.before s' =
      { past.before s with
        constructions := (past.before s).constructions ++ [({} : Construction)]
        construction := some (past.building s.constructions.length) } := by
    simp [s', before, construction, making]
  refine Eq.trans ?_ (past.before_wake s' (.construction s.constructions.length))
  rw [hbefore]
  simp only [newConstruction, hlength]
  rfl

theorem before_watchConstruction (n c : Nat) :
    (past.before s).watchConstruction (past.task n) (past.building c) =
      past.before (s.watchConstruction n c) := by
  have hdid : (past.before s).did (.awaitConstruction (past.task n) (past.building c)) =
      past.before (s.did (.awaitConstruction n c)) := past.before_did s (.awaitConstruction n c)
  simp only [watchConstruction, hdid, before_making?]
  generalize s.did (.awaitConstruction n c) = s₁
  have hwatch : (past.before { s₁ with constructions := s₁.constructions.modify c fun k =>
        { k with watchers := k.watchers ++ [n] } }).setJob (past.task n)
          (.awaitingInterpreter (past.building c)) = _ :=
    past.before_setJob _ n (.awaitingInterpreter c)
  have hmodify := modify_behind past.constructions s₁.constructions
    (f := past.construction)
    (g := fun k => { k with watchers := k.watchers ++ [past.task n] })
    (h := fun k => { k with watchers := k.watchers ++ [n] })
    (fun k => by simp [construction]) c
  have hbefore : past.before { s₁ with constructions := s₁.constructions.modify c fun k =>
        { k with watchers := k.watchers ++ [n] } } =
      { past.before s₁ with
        constructions := (past.before s₁).constructions.modify (past.building c) fun k =>
          { k with watchers := k.watchers ++ [past.task n] } } := by
    simp only [before, building, hmodify]
  rcases s₁.making? c with _ | _ | _ | result
  · rw [← hwatch, hbefore]
    rfl
  · rw [← hwatch, hbefore]
    rfl
  · rw [← hwatch, hbefore]
    rfl
  · exact before_learnInterpreter n c result

theorem before_needInterpreter (n : Nat) :
    (past.before s).needInterpreter (past.task n) = past.before (s.needInterpreter n) := by
  have hlength : (past.before s).constructions.length = past.building s.constructions.length := by
    simp [before, building]
  simp only [needInterpreter, before_current, before_construction, hlength]
  rcases s.current with _ | i
  · rcases s.construction with _ | c
    · simp only [Option.map_none, before_newConstruction, before_watchConstruction]
    · exact before_watchConstruction n c
  · exact before_withInterpreter n i

theorem before_startJob (n : Nat) :
    (past.before s).startJob (past.task n) = past.before (s.startJob n) := by
  simp only [startJob, before_request?]
  rcases s.request? n with _ | _ | i | _
  · exact before_needInterpreter n
  · exact before_needInterpreter n
  · exact before_needBridge n i
  · exact before_needInterpreter n

theorem before_continueJob (n : Nat) :
    (past.before s).continueJob (past.task n) = past.before (s.continueJob n) := by
  simp only [continueJob, before_stage?]
  rcases s.stage? n with _ | stage
  · rfl
  cases stage with
  | starting => exact before_startJob n
  | awaitingInterpreter c =>
    simp only [Option.map_some, Past.stage, before_making?]
    rcases s.making? c with _ | _ | _ | result
    · rfl
    · rfl
    · rfl
    · exact before_learnInterpreter n c result
  | awaitingBridge i a =>
    simp only [Option.map_some, Past.stage, before_loading?]
    rcases s.loading? a with _ | loading
    · rfl
    rcases loading with _ | _ | _ | _ | _ | _ | (_ | fault)
    all_goals first
      | rfl
      | exact before_afterBridge n i
      | exact before_endJob n _
  | queuedToResolve i =>
    have hadmits := past.admits_event (.job n) s.resolving
    simp only [Option.map_some, Past.stage, before_resolving, event_job, hadmits, takeAfter_lock]
    split
    · exact before_findPackages (s := { s with resolving := s.resolving.takeAfter (.job n) }) n i
    · rfl
  | installing i missing turns => exact before_install n i missing turns
  | queuedToRun i =>
    have hadmits := past.admits_event (.job n) (s.cell i).lock
    have htake := past.before_mapLock s
      (f := fun l => l.takeAfter (.job n)) (g := fun l => l.takeAfter (past.event (.job n)))
      (fun l => takeAfter_lock (.job n) l) i
    simp only [Option.map_some, Past.stage, before_lock, event_job, hadmits, htake]
    split
    · exact before_startChunk n i
    · rfl
  | running i resume =>
    simp only [Option.map_some, Past.stage, before_scanOf, before_scene, before_followChunk]
  | stuck => rfl
  | ended result => rfl

/-! Events and runs. -/

theorem before_fire (event : Event) :
    (past.before s).fire (past.event event) = past.before (s.fire event) := by
  cases event with
  | job n => exact before_continueJob n
  | relay n => exact past.before_wake s (.job n)
  | construction c => exact before_continueConstruction c
  | attempt a => exact before_continueAttempt a

end Past

end Chunkwise.Session
