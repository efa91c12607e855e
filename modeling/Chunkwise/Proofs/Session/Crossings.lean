import Chunkwise.Proofs.Session.Evaluations

/-!
Chunks that import the heavy library, in a session that is not closed. Their code runs only when
one attempt has succeeded, and in the interpreter that this was for.
-/
namespace Chunkwise.Session
open Chunkwise.Execution Chunkwise.Bridge

variable {settings : Settings} {world : World} {s s' : Session} {p p' : Point} {n c a i : Nat}

/-- The successful attempts on record, with their interpreters. -/
def arrivals (deeds : List Deed) : List (Nat × Nat) :=
  deeds.filterMap Deed.crossing?

/-- How the one bridge and the record of successful attempts fit together. -/
structure Spanned (s : Session) : Prop where
  bridge : s.bridge = 0
  crossings : s.crossings = [s.crossing]
  landed {a : Nat} : s.loading? a = some (.ended none) → s.crossing.status = .ready
  ready : s.crossing.status = .ready → ∃ a i, arrivals s.deeds = [(a, i)] ∧ s.current = some i
  unready : s.crossing.status ≠ .ready → arrivals s.deeds = []

theorem Occasion.crossing?_eq_none {deed : Deed} (h : Occasion p s deed)
    (hp : ∀ a, p ≠ .adapted a) : deed.crossing? = none := by
  cases h
  case strive h => cases deed <;> first | rfl | simp [Deed.attempt?] at h
  case arrive => exact absurd rfl (hp _)
  all_goals rfl

theorem Move.arrivals_eq (m : Move (p, s) (p', s')) (hp : ∀ a, p ≠ .adapted a) :
    arrivals s'.deeds = arrivals s.deeds := by
  rcases m.deeds with hsame | ⟨last, hlast, hnew⟩
  · rw [hsame]
  · simp [arrivals, hnew, hlast.crossing?_eq_none hp]

theorem Flight.bridge_eq (f : Flight p s p' s') : s'.bridge = s.bridge := by
  cases f with
  | stay _ bridge | land _ _ _ _ bridge | start _ _ _ _ bridge => exact bridge

/-- A bridge that is loaded stays so. -/
theorem Flight.ready_stays (f : Flight p s p' s') (hb : Bridged p s)
    (hready : s.crossing.status = .ready) : s'.crossing.status = .ready := by
  obtain ⟨c', hc', hstatus⟩ := f.turn hb hb.crossing?_eq
  have hcrossing' : s'.crossing = c' := by rw [crossing, f.bridge_eq, hc', Option.getD_some]
  rw [hready] at hstatus
  rcases hstatus with hsame | ⟨-, ⟨⟩⟩
  rw [hcrossing', hsame]

/-- The one bridge is loading while an attempt is in flight. -/
theorem Spanned.loading (h : Spanned s) (hb : Bridged p s) {b : Nat}
    (flying : s.flights[a]? = some (b, false)) : b = 0 ∧ s.crossing.status = .loading := by
  have hlt := hb.flights flying
  have hlength : s.crossings.length = 1 := by rw [h.crossings, List.length_singleton]
  obtain rfl : b = 0 := by omega
  have hc := hb.crossing?_eq
  rw [h.bridge] at hc
  exact ⟨rfl, (hb.loading hc).mpr (by simp [(hb.inflight hc a).mpr flying])⟩

theorem spanned_endAttempt (h : Spanned s) (hb : Bridged p s) (here : p.attempt? = some a)
    (hi : s.current = some (s.interpreterOf a)) (fault : Option Fault) :
    Spanned (s.endAttempt a fault) := by
  obtain ⟨b, flying⟩ := hb.here here
  obtain ⟨rfl, hloading⟩ := h.loading hb flying
  have hnone : arrivals s.deeds = [] := h.unready (by simp [hloading])
  have hcrossings : (s.endAttempt a fault).crossings = [{ s.crossing with
      status := if fault.isNone then .ready else .failed
      inflight := none }] := by
    have hmodify : (s.endAttempt a fault).crossings = s.crossings.modify (s.bridgeOf a) fun c =>
        { c with status := if fault.isNone then .ready else .failed, inflight := none } := by
      cases fault <;> rfl
    rw [hmodify, bridgeOf_eq flying, h.crossings]
    rfl
  have hbridge : (s.endAttempt a fault).bridge = 0 := by
    cases fault <;> exact h.bridge
  have hcrossing : (s.endAttempt a fault).crossing = { s.crossing with
      status := if fault.isNone then .ready else .failed
      inflight := none } := by
    rw [crossing, hcrossings, hbridge]
    rfl
  cases fault with
  | none =>
    refine ⟨hbridge, by rw [hcrossing, hcrossings], fun _ => by rw [hcrossing]; rfl, fun _ => ?_,
      fun hready => absurd (by rw [hcrossing]; rfl) hready⟩
    refine ⟨a, s.interpreterOf a, ?_, hi⟩
    have hdeeds : (s.endAttempt a none).deeds = s.deeds ++ [.crossed a (s.interpreterOf a)] := rfl
    rw [hdeeds, arrivals, List.filterMap_append, ← arrivals, hnone]
    rfl
  | some fault =>
    refine ⟨hbridge, by rw [hcrossing, hcrossings], fun {a'} ha' => ?_, fun hready => ?_,
      fun _ => hnone⟩
    · by_cases ha : a = a'
      · subst ha
        obtain ⟨_, -, hstage⟩ := Option.map_eq_some_iff.mp ((loading?_setAttempt ..).symm.trans ha')
        cases hstage
      · have hold := (loading?_setAttempt_ne ha ..).symm.trans ha'
        exact absurd (hloading.symm.trans (h.landed hold)) (by decide)
    · rw [hcrossing] at hready
      cases hready

theorem Spanned.same (h : Spanned s) (bridge : s'.bridge = s.bridge)
    (crossings : s'.crossings = s.crossings)
    (current : ∀ i, s.current = some i → s'.current = some i)
    (deeds : arrivals s'.deeds = arrivals s.deeds)
    (landed : ∀ a, s'.loading? a = some (.ended none) → s.loading? a = some (.ended none)) :
    Spanned s' := by
  have hcrossing : s'.crossing = s.crossing := by simp only [crossing, bridge, crossings]
  refine ⟨bridge.trans h.bridge, ?_, fun ha => ?_, fun hready => ?_, fun hready => ?_⟩
  · rw [crossings, hcrossing]
    exact h.crossings
  · rw [hcrossing]
    exact h.landed (landed _ ha)
  · obtain ⟨a, i, hdeeds, hi⟩ := h.ready (hcrossing ▸ hready)
    exact ⟨a, i, deeds.trans hdeeds, current i hi⟩
  · exact deeds.trans (h.unready (hcrossing ▸ hready))

/-- An attempt that pauses has not succeeded. -/
theorem loading?_of_pause {stage : Loading} (hstage : stage.isOver = false) {a' : Nat}
    (h : (s.setAttempt a stage).loading? a' = some (.ended none)) :
    s.loading? a' = some (.ended none) := by
  by_cases ha : a = a'
  · subst ha
    obtain ⟨_, -, rfl⟩ := Option.map_eq_some_iff.mp ((loading?_setAttempt ..).symm.trans h)
    cases hstage
  · exact (loading?_setAttempt_ne ha ..).symm.trans h

theorem loading?_newAttempt (h : (s.newAttempt i).loading? a = some (.ended none)) :
    s.loading? a = some (.ended none) := by
  simp only [loading?, newAttempt, wake, mapCrossing] at h ⊢
  grind

theorem Housed.interpreterOf (hh : Housed p s) (hb : Bridged p s) (here : p.attempt? = some a) :
    s.current = some (s.interpreterOf a) := by
  obtain ⟨b, flying⟩ := hb.here here
  obtain ⟨made, hmade, -⟩ := inFlight_iff.mpr flying
  have hmem := List.mem_map_of_mem (f := (·.interpreter)) (List.mem_of_getElem? hmade)
  simpa [Session.interpreterOf, hmade] using hh.attempt hmem

theorem Spanned.newAttempt (h : Spanned s) (status : s.crossing.status ≠ .ready)
    (hnone : arrivals ((s.newAttempt i).watchAttempt n i a).deeds = []) :
    Spanned ((s.newAttempt i).watchAttempt n i a) := by
  have hcrossings : ((s.newAttempt i).watchAttempt n i a).crossings =
      [⟨.loading, s.crossing.attempts + 1, some s.attempts.length⟩] := by
    have hmodify : ((s.newAttempt i).watchAttempt n i a).crossings =
        s.crossings.modify s.bridge fun c =>
          { c with status := .loading, attempts := c.attempts + 1, inflight := some s.attempts.length } :=
      rfl
    rw [hmodify, h.bridge, h.crossings]
    rfl
  have hbridge : ((s.newAttempt i).watchAttempt n i a).bridge = 0 := h.bridge
  have hcrossing : ((s.newAttempt i).watchAttempt n i a).crossing =
      ⟨.loading, s.crossing.attempts + 1, some s.attempts.length⟩ := by
    rw [crossing, hcrossings, hbridge]
    rfl
  refine ⟨hbridge, by rw [hcrossing, hcrossings], fun ha => ?_, fun hready => ?_, fun _ => hnone⟩
  · have hold := loading?_newAttempt ((loading?_watchAttempt ..).symm.trans ha)
    exact absurd (h.landed hold) status
  · rw [hcrossing] at hready
    cases hready

theorem Spanned.keep (h : Spanned s) (hb : Bridged p s) (hs : Constructed p s) (hh : Housed p s)
    (m : Move (p, s) (p', s')) : Spanned s' := by
  have hcurrent := fun i => (m.founding hs.attends).current_stays (i := i) hs
  have harrivals := m.arrivals_eq
  cases m
  case arrive | failAttempt | failAdapted =>
    exact spanned_endAttempt h hb rfl (hh.interpreterOf hb rfl) _
  case newAttempt n i status _ =>
    have hnone := (harrivals (by simp)).trans (h.unready status)
    exact h.newAttempt status hnone
  case loadLater paused =>
    exact h.same rfl rfl hcurrent (harrivals (by simp)) fun _ =>
      loading?_of_pause (Loading.isOver_of_isPaused paused)
  case queueAdapter | adaptLater | stickAttempt =>
    exact h.same rfl rfl hcurrent (harrivals (by simp)) fun _ => loading?_of_pause rfl
  case watchAttempt =>
    exact h.same rfl rfl hcurrent (harrivals (by simp)) fun _ => (loading?_watchAttempt ..).symm.trans
  case work => exact h.same rfl rfl hcurrent rfl fun _ => id
  case leaveAdapter => exact h.same rfl rfl hcurrent rfl fun _ => id
  case settle =>
    exact h.same rfl rfl hcurrent (by simp [arrivals, did, Deed.crossing?]) fun _ => id
  all_goals exact h.same rfl rfl hcurrent (harrivals (by simp)) fun _ => id

theorem spanned_of_evaluates (h : Evaluates settings world p s) : Spanned s := by
  induction h with
  | start =>
    exact ⟨rfl, rfl, nofun, nofun, fun _ => rfl⟩
  | move h m ih =>
    exact ih.keep (h.bridged (bridged_fresh settings world [] none)) (constructed_of_evaluates h)
      (housed_of_evaluates h) m
  | pick _ _ _ ih | submit _ _ _ ih | change _ _ _ _ _ ih =>
    exact ih.same rfl rfl (fun _ => id) rfl fun _ => id
  | close _ _ _ _ _ allowed => exact allowed.elim

/-! Jobs beyond the bridge. -/

def Stage.isAcross : Stage → Bool
  | .queuedToResolve _ | .installing _ _ _ | .queuedToRun _ | .running _ _ => true
  | .starting | .awaitingInterpreter _ | .awaitingBridge _ _ | .stuck | .ended _ => false

def Task.isAcross : Task → Bool
  | .onward _ | .resolve _ | .search _ _ _ | .install _ _ | .conclude _ _ | .execute _
  | .follow _ => true
  | .seek | .watch _ | .learn _ _ | .enter _ | .cross _ | .finish _ => false

/-- A job needs the bridge no more. -/
def Place.isAcross : Place → Bool
  | .waiting stage => stage.any Stage.isAcross
  | .working task => task.isAcross

/-- A job gets beyond the bridge when that is loaded, or if it does not need it. -/
theorem Move.isAcross (m : Move (p, s) (p', s'))
    (hn : ∀ task, p = .job n task → s.stage? n ≠ none) (h : (place n p' s').isAcross) :
    (place n p s).isAcross ∨ s.crossing.status = .ready ∨ ¬(s.scanOf n).heavy ∨
      ∃ a, s.loading? a = some (.ended none) := by
  by_cases hat : p.isAt n
  · rcases hat with rfl | ⟨task, rfl⟩
    · cases m
      case work busy _ _ => cases busy
      case arrived ha _ => exact .inr (.inr (.inr ⟨_, ha⟩))
      case idle => exact .inl h
      all_goals simp_all [Place.isAcross, Task.isAcross, Stage.isAcross]
    · obtain ⟨job, hjob⟩ := job_of_stage? (hn task rfl)
      cases m
      all_goals
        simp_all [Place.isAcross, Task.isAcross, Stage.isAcross, stage?, setJob, wake, endJob, did,
          mapLock, mapCell, Session.watchAttempt, Session.newAttempt, mapCrossing]
  · rw [m.place_eq hat] at h
    exact .inl h

/-- A job whose chunk imports the heavy library gets beyond the bridge only when that is loaded. -/
theorem ready_of_evaluates (h : Evaluates settings world p s) (hheavy : (s.scanOf n).heavy)
    (hacross : (place n p s).isAcross) : s.crossing.status = .ready := by
  induction h with
  | start => cases hacross
  | move h m ih =>
    have hb := h.bridged (bridged_fresh settings world [] none)
    have hflight := m.flight fun _ => hb.here
    refine hflight.ready_stays hb ?_
    rw [m.scanOf_eq] at hheavy
    rcases m.isAcross (fun task => h.stage?_ne_none) hacross with hold | hready | hlight | ⟨a, ha⟩
    · exact ih hheavy hold
    · exact hready
    · exact absurd hheavy hlight
    · exact (spanned_of_evaluates h).landed ha
  | submit request _ _ ih =>
    rw [place_rest, stage?_submit] at hacross
    split at hacross
    next => cases hacross
    next hn =>
      rw [scanOf_submit request _ hn] at hheavy
      exact ih hheavy hacross
  | pick _ _ _ ih | change _ _ _ _ _ ih => exact ih hheavy hacross
  | close _ _ _ _ _ allowed => exact allowed.elim

theorem Occasion.isAcross (h : Occasion p s (.run n i)) : (place n p s).isAcross := by
  rcases h.run_place with hplace | hplace <;> rw [hplace] <;> rfl

/-- A job whose attempt has failed has ended with its fault, or will be told of it. -/
theorem stranded_of_evaluates {fault : Fault} (h : Evaluates settings world .rest s)
    (hdeed : .awaitAttempt n a ∈ s.deeds) (hended : s.loading? a = some (.ended (some fault))) :
    (∀ i, .run n i ∉ s.deeds) ∧ (s.stage? n = some (.ended (.error fault)) ∨
      (∃ i, s.stage? n = some (.awaitingBridge i a)) ∧
        (.relay n ∈ s.ready ∨ .job n ∈ s.ready)) := by
  obtain hok | ⟨hrun, hawaits⟩ := h.boards hdeed
  · cases hok.symm.trans hended
  refine ⟨hrun, ?_⟩
  rw [place_rest, hended] at hawaits
  generalize hstage : s.stage? n = stage at hawaits
  cases hawaits with
  | @waiting i =>
    obtain ⟨ended, watchers, hwatchers, htold⟩ :=
      expects_of_evaluates h (.awaitingBridge i a) _ (by rw [place_rest, hstage]) rfl
    have hover : ended = true := by
      obtain ⟨made, hmade, hview⟩ := Option.map_eq_some_iff.mp hwatchers
      simp only [loading?, hmade, Option.map_some, Option.some.injEq] at hended
      exact (Prod.mk.inj hview).1.symm.trans (by rw [hended]; rfl)
    subst hover
    exact .inr ⟨⟨i, rfl⟩, Told.ready htold⟩
  | ended hfault =>
    cases hfault
    exact .inl rfl

/-- Evaluations come in any order, and each step of an attempt may fail. When the code of a chunk
that imports the heavy library begins to run, exactly one attempt has succeeded, and that was for
the interpreter in which the code runs. Whoever waits for an attempt that fails ends with its fault
and runs nothing. At most one attempt ever succeeds. -/
theorem heavy_chunk_behind_bridge (settings : Settings) (world : World)
    (h : Reaches .evaluating (fresh settings world [] none) s) :
    (∀ before n i after, s.deeds = before ++ .run n i :: after → (s.scanOf n).heavy →
      ∃ a, before.filterMap Deed.crossing? = [(a, i)]) ∧
    (∀ n a fault, .awaitAttempt n a ∈ s.deeds → s.loading? a = some (.ended (some fault)) →
      (∀ i, .run n i ∉ s.deeds) ∧ (s.stage? n = some (.ended (.error fault)) ∨
        (∃ i, s.stage? n = some (.awaitingBridge i a)) ∧
          (.relay n ∈ s.ready ∨ .job n ∈ s.ready))) ∧
    (s.deeds.filterMap Deed.crossing?).length ≤ 1 := by
  have hv : Evaluates settings world .rest s := visits_of_reaches h
  refine ⟨fun before n i after hdeeds hheavy => ?_,
    fun n a fault => stranded_of_evaluates hv, ?_⟩
  · obtain ⟨p₁, s₁, hv₁, ho, rfl, hlater⟩ := hv.occasion rfl hdeeds
    rw [hlater.scanOf (ho.request? hv₁ rfl)] at hheavy
    have hready := ready_of_evaluates hv₁ hheavy ho.isAcross
    obtain ⟨a, i', harrivals, hcurrent⟩ := (spanned_of_evaluates hv₁).ready hready
    have hi := (housed_of_evaluates hv₁).place ho.run_interpreter?
    obtain rfl := Option.some.inj (hi.symm.trans hcurrent)
    exact ⟨a, harrivals⟩
  · have hspanned := spanned_of_evaluates hv
    by_cases hready : s.crossing.status = .ready
    · obtain ⟨a, i, harrivals, -⟩ := hspanned.ready hready
      exact Nat.le_of_eq (congrArg List.length harrivals)
    · exact Nat.le_trans (Nat.le_of_eq (congrArg List.length (hspanned.unready hready)))
        (Nat.zero_le 1)

theorem heavy_chunk_behind_loaded_bridge :
    ∃ s, Reaches .evaluating (fresh default stocked [] none) s ∧ ∃ before i after,
      s.deeds = before ++ .run 0 i :: after ∧ ∃ a, before.filterMap Deed.crossing? = [(a, i)] := by
  let s := ((fresh default stocked [] none).serve (.evaluate "import torch")).2
  have hs : Reaches .evaluating (fresh default stocked [] none) s :=
    reaches_serve .refl trivial fun _ _ => trivial
  obtain ⟨before, i, after, hrun⟩ : ∃ before i after, s.deeds = before ++ .run 0 i :: after :=
    exists_run (by decide +kernel)
  have hheavy : (s.scanOf 0).heavy := by decide +kernel
  obtain ⟨hbehind, -⟩ := heavy_chunk_behind_bridge default stocked hs
  exact ⟨s, hs, before, i, after, hrun, hbehind before 0 i after hrun hheavy⟩

end Chunkwise.Session
