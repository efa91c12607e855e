import Chunkwise.Proofs.Session.Alone.Evaluation
import Chunkwise.Session.Schedule

/-!
A request that is served alone: an interpreter is constructed for it if there is none, and the
evaluation goes on in that.
-/
namespace Chunkwise.Session
open Chunkwise.Execution Chunkwise.World Store

variable {s s' s'' : Session} {n c i : Nat} {chunk : String} {w : World}

/-- A request is served: it has been taken, and all has happened that comes of it. -/
def Serves (request : Request) (s s' : Session) : Prop :=
  Leads (s.submit request) s' ∧ s'.advance = none

/-- Only one session comes of a request. -/
theorem Serves.unique {request : Request} (h : Serves request s s') (h' : Serves request s s'') :
    s' = s'' := by
  obtain ⟨enough, hsettle⟩ := h.1.settle h.2
  obtain ⟨enough', hsettle'⟩ := h'.1.settle h'.2
  rw [← hsettle (max enough enough') (Nat.le_max_left _ _), hsettle' _ (Nat.le_max_right _ _)]

/-! Construction. -/

/-- A session that has begun to construct an interpreter for a job. -/
def constructing (n : Nat) (s : Session) : Session :=
  { s with
    constructions := s.constructions ++ [{ watchers := [n] }]
    construction := some s.constructions.length
    jobs := s.jobs.modify n fun job => { job with stage := .awaitingInterpreter s.constructions.length }
    deeds := s.deeds ++ [.awaitConstruction n s.constructions.length] }

theorem watchConstruction_newConstruction (n : Nat) (s : Session) :
    s.newConstruction.watchConstruction n s.constructions.length =
      (constructing n s).wake (.construction s.constructions.length) := by
  have hwatch : (s.constructions ++ [({} : Construction)]).modify s.constructions.length
      (fun k => { k with watchers := k.watchers ++ [n] }) =
      s.constructions ++ [{ watchers := [n] }] := by
    simp [List.modify_eq_set_getElem?]
  have hmaking : (s.newConstruction.did (.awaitConstruction n s.constructions.length)).making?
      s.constructions.length = some .starting := by
    simp [making?, newConstruction, did, wake]
  unfold watchConstruction
  dsimp only
  rw [hmaking]
  simp only [newConstruction, constructing, wake, did, setJob]
  rw [hwatch]

theorem setConstruction_setConstruction (c : Nat) (stage stage' : Making) (s : Session) :
    (s.setConstruction c stage').setConstruction c stage = s.setConstruction c stage := by
  simp only [setConstruction, List.modify_modify_eq]
  rfl

theorem setConstruction_self {made : Construction} (h : s.constructions[c]? = some made) :
    s.setConstruction c made.stage = s := by
  have hconstructions : s.constructions.modify c (fun k => { k with stage := made.stage }) =
      s.constructions := by
    refine modify_of_self fun k hk => ?_
    obtain rfl := Option.some.inj (h.symm.trans hk)
    rfl
  simp only [setConstruction, hconstructions]

/-- A construction is under way, and a job waits for it. -/
structure Builds (n c : Nat) (s : Session) : Prop where
  halted : s.halted = none
  ready : s.ready = []
  construction : ∃ stage, s.constructions[c]? = some ⟨stage, [n]⟩

theorem Builds.setConstruction (h : Builds n c s) (stage : Making) :
    Builds n c (s.setConstruction c stage) := by
  obtain ⟨stage₀, hmade⟩ := h.construction
  exact ⟨h.halted, h.ready, stage, by simp [Session.setConstruction, hmade]⟩

theorem Builds.making?_setConstruction (h : Builds n c s) (stage : Making) :
    (s.setConstruction c stage).making? c = some stage := by
  obtain ⟨stage₀, hmade⟩ := h.construction
  simp [making?, Session.setConstruction, hmade]

/-- The construction takes its next turn. -/
theorem Builds.leads_turn (h : Builds n c s) (stage : Making) :
    Leads ((s.setConstruction c stage).wake (.construction c))
      ((s.setConstruction c stage).continueConstruction c) :=
  .head (advance_wake (s := s.setConstruction c stage) h.halted h.ready _) .refl

/-- The installer takes its turns to get ready. -/
theorem leads_prepare (h : Builds n c s) (fault : Option Fault) (turns : Nat) :
    ∃ stage, Leads (s.prepare c fault turns)
      ((s.setConstruction c stage).settleConstruction c fault) := by
  induction turns generalizing s with
  | zero =>
    obtain ⟨stage, hmade⟩ := h.construction
    exact ⟨stage, by rw [setConstruction_self hmade]; exact .refl⟩
  | succ turns ih =>
    have hgo : (s.setConstruction c (.preparing fault turns)).continueConstruction c =
        (s.setConstruction c (.preparing fault turns)).prepare c fault turns := by
      simp only [continueConstruction, h.making?_setConstruction]
    obtain ⟨stage, hrest⟩ := ih (h.setConstruction (.preparing fault turns))
    rw [setConstruction_setConstruction] at hrest
    exact ⟨stage, (hgo ▸ h.leads_turn (.preparing fault turns)).trans hrest⟩

/-- A session whose construction has come to its end. -/
def built (c : Nat) (result : Except Fault Nat) (s : Session) : Session :=
  s.setConstruction c (.ended result)

theorem endConstruction_eq (h : Builds n c s) (stage : Making) (result : Except Fault Nat) :
    (s.setConstruction c stage).endConstruction c result =
      ((built c result s).wake (.relay n)).haltOn
        (match result with
          | .ok _ => none
          | .error fault => some fault) := by
  obtain ⟨stage₀, hmade⟩ := h.construction
  have hwatchers : (s.setConstruction c stage).constructions[c]? = some ⟨stage, [n]⟩ := by
    simp [Session.setConstruction, hmade]
  unfold endConstruction
  rw [hwatchers, setConstruction_setConstruction]
  rfl

/-- What the construction begins with. -/
theorem leads_constructing (hq : Quiet s) (n : Nat) :
    ∃ stage, Leads ((constructing n s).wake (.construction s.constructions.length))
      ((((constructing n s).after s.world.prepareInstaller.2
        [.prepare s.constructions.length]).setConstruction s.constructions.length stage).settleConstruction
          s.constructions.length s.world.prepareInstaller.1) := by
  let begun := (constructing n s).after s.world.prepareInstaller.2 [.prepare s.constructions.length]
  have hmade : (constructing n s).constructions[s.constructions.length]? =
      some ⟨.starting, [n]⟩ := by simp [constructing]
  have hbuilds : Builds n s.constructions.length begun := ⟨hq.halted, hq.ready, .starting, hmade⟩
  obtain ⟨stage, hleads⟩ :=
    leads_prepare hbuilds s.world.prepareInstaller.1 (preparationTurns s.world)
  have hmaking : (constructing n s).making? s.constructions.length = some .starting := by
    simp [making?, hmade]
  have hgo : (constructing n s).continueConstruction s.constructions.length =
      begun.prepare s.constructions.length s.world.prepareInstaller.1 (preparationTurns s.world) := by
    simp only [continueConstruction, hmaking]
    rfl
  have hfirst := advance_wake (s := constructing n s) hq.halted hq.ready
    (.construction s.constructions.length)
  exact ⟨stage, .head (hfirst.trans (congrArg some hgo)) hleads⟩

/-! Serving. -/

/-- A session that has been asked to evaluate a chunk. -/
def asking (chunk : String) (s : Session) : Session :=
  { s with jobs := s.jobs ++ [{ request := .evaluate chunk }] }

/-- What comes of an evaluation alone. -/
structure Comes (n : Nat) (s : Session) (outcome : Option (Except Fault Value)) (w : World)
    (deeds : List Deed) (s' : Session) : Prop where
  rest : s'.advance = none
  ends : s'.outcome? n = outcome
  settings : s'.settings = s.settings
  did : s'.deeds = s.deeds ++ deeds
  crossed : ∀ a j, .crossed a j ∈ deeds → s'.loading? a = some (.ended none)
  attempted : ∀ m a fault, .awaitAttempt m a ∈ deeds →
    s'.loading? a = some (.ended (some fault)) → outcome = some (.error fault)
  constructed : ∀ m c, .awaitConstruction m c ∈ deeds → (∃ j, .enter n j ∈ deeds) →
    ∃ i, s'.making? c = some (.ended (.ok i))
  halted : ∀ fault, s'.halted = some fault → isFatal fault ∧ outcome = some (.error fault)
  cells : outcome.isSome → s.cells <+: s'.cells
  home : outcome.isSome → ∀ i it w₁ before, Enters s n (.ok (i, it)) w₁ before →
    s'.cells[i]?.map (·.interpreter) = some it
  world : outcome.isSome → s'.world = w
  quiet : outcome.isSome → s'.halted = none → Quiet s'

theorem quiet_asking (hq : Quiet s) (chunk : String) : Quiet (asking chunk s) :=
  ⟨⟨hq.halted, hq.ready, hq.cells, hq.guarded, hq.host⟩, hq.resolving, hq.current, hq.inflight,
    hq.construction, hq.hosted⟩

theorem job_asking (chunk : String) (s : Session) :
    (asking chunk s).jobs[s.jobs.length]? = some ⟨.evaluate chunk, .starting⟩ := by
  simp [asking]

/-- The job that is asked for looks for its interpreter. -/
theorem leads_submit (hq : Quiet s) (chunk : String) :
    Leads (s.submit (.evaluate chunk)) ((asking chunk s).needInterpreter s.jobs.length) := by
  have hstage : (asking chunk s).stage? s.jobs.length = some .starting := by
    simp [Session.stage?, asking]
  have hrequest : (asking chunk s).request? s.jobs.length = some (.evaluate chunk) := by
    simp [Session.request?, asking]
  have hgo : (asking chunk s).continueJob s.jobs.length =
      (asking chunk s).needInterpreter s.jobs.length := by
    simp only [continueJob, hstage, startJob, hrequest]
  have hfirst := advance_wake (s := asking chunk s) hq.halted hq.ready (.job s.jobs.length)
  exact .head (hfirst.trans (congrArg some hgo)) .refl

/-- The interpreter is there. -/
theorem comes_present (hq : Quiet s) (chunk : String) (h : s.current = some i) :
    ∃ outcome w deeds s', Course s s.jobs.length chunk outcome w deeds ∧
      Comes s.jobs.length s outcome w deeds s' ∧
      Leads ((asking chunk s).needInterpreter s.jobs.length) s' := by
  have hasking := quiet_asking hq chunk
  have hi : i < s.cells.length := hq.current i h
  obtain ⟨outcome, w, deeds, s', hproceeds, hserved, hleads⟩ :=
    leads_withInterpreter hasking (hasking.onTurn (job_asking chunk s)) hi
  have hneed : (asking chunk s).needInterpreter s.jobs.length =
      (asking chunk s).withInterpreter s.jobs.length i := by
    have hcurrent : (asking chunk s).current = some i := h
    simp only [needInterpreter, hcurrent]
  have hcells (hsome : outcome.isSome) : s'.cells = s.cells := hserved.cells hsome
  rw [hneed]
  refine ⟨outcome, w, _, s', .entered (.present h) (hproceeds.of_eq rfl rfl rfl),
    ⟨hserved.rest, hserved.ends, hserved.settings, ?_, fun a j hmem => ?_,
      fun m a f hmem => hserved.attempted m a f (by simpa using hmem), fun m c hmem => ?_,
      hserved.halted, fun hsome => (hcells hsome).symm ▸ List.prefix_rfl, fun hsome => ?_,
      hserved.world, hserved.quiet⟩, hleads⟩
  · rw [hserved.did]
    simp [did, asking]
  · exact hserved.crossed a j (by simpa using hmem)
  · have hnot : .awaitConstruction m c ∉ deeds := hproceeds.not_mem rfl rfl (by simp) (by simp) (by simp)
    exact absurd hmem (by simpa using hnot)
  · intro j it w₁ before henters
    cases henters with
    | present hj =>
      obtain rfl : i = j := Option.some.inj (h.symm.trans hj)
      rw [hcells hsome, cell_eq hi]
      rfl
    | made hnone => simp [h] at hnone

/-- A job that learns of a failed construction ends. -/
theorem done_learnInterpreter (hq : Quiet s) (h : OnTurn n chunk s) (c : Nat) (fault : Fault) :
    Done n s (some (.error fault)) s.world [] (s.learnInterpreter n c (.error fault)) := by
  let forgotten : Session :=
    if fault.kind.isOrdinary ∧ s.construction = some c then { s with construction := none } else s
  have hforgotten : Quiet forgotten ∧ OnTurn n chunk forgotten ∧ forgotten.settings = s.settings ∧
      forgotten.deeds = s.deeds ∧ forgotten.attempts = s.attempts ∧
      forgotten.constructions = s.constructions ∧ forgotten.cells = s.cells ∧
      forgotten.world = s.world := by
    simp only [forgotten]
    split
    · have hnone : Quiet { s with construction := none } :=
        ⟨⟨hq.halted, hq.ready, hq.cells, hq.guarded, hq.host⟩, hq.resolving, hq.current,
          hq.inflight, by simp, hq.hosted⟩
      exact ⟨hnone, ⟨hnone.toStill, h.job⟩, rfl, rfl, rfl, rfl, rfl, rfl⟩
    · exact ⟨hq, h, rfl, rfl, rfl, rfl, rfl, rfl⟩
  obtain ⟨hquiet, hturn, hsettings, hdeeds, hattempts, hconstructions, hcells, hworld⟩ := hforgotten
  have hends : s.learnInterpreter n c (.error fault) =
      forgotten.setJob n (.ended (.error fault)) := rfl
  rw [hends]
  exact ⟨advance_of_ready hquiet.ready, outcome?_setJob hturn _ hquiet.halted, hquiet.halted,
    hsettings, by rw [List.append_nil]; exact hdeeds, hattempts, hconstructions, fun _ => hcells,
    fun _ => hworld, fun _ => hquiet.setJob n _⟩

/-- An evaluation that has no interpreter ends with the fault of the construction. -/
theorem comes_of_done {fault : Fault} {deeds : List Deed} {s₁ : Session} {m : Nat}
    (h : Done n s₁ (some (.error fault)) w [] s') (hsettings : s₁.settings = s.settings)
    (hdeeds : s₁.deeds = s.deeds ++ deeds) (hcells : s₁.cells = s.cells)
    (hcrossed : ∀ a j, .crossed a j ∉ deeds) (hattempts : ∀ m a, .awaitAttempt m a ∉ deeds)
    (henter : ∀ j, .enter n j ∉ deeds)
    (hfails : ∀ i it w₁ before, ¬Enters s m (.ok (i, it)) w₁ before) (hm : m = n) :
    Comes n s (some (.error fault)) w deeds s' := by
  subst hm
  exact ⟨h.rest, h.ends, h.settings.trans hsettings, by rw [h.deeds, hdeeds, List.append_nil],
    fun a j hmem => absurd hmem (hcrossed a j), fun m a _ hmem => absurd hmem (hattempts m a),
    fun m c hmem hj => by obtain ⟨j, hj⟩ := hj; exact absurd hj (henter j),
    fun f hf => by simp [h.halted] at hf,
    fun hsome => (hcells.symm.trans (h.cells hsome).symm) ▸ List.prefix_rfl,
    fun _ i it w₁ before henters => absurd henters (hfails i it w₁ before), h.world,
    fun hsome _ => h.quiet hsome⟩

/-- A construction that has ended is not waited for. -/
theorem watchConstruction_ended {result : Except Fault Nat}
    (h : s.making? c = some (.ended result)) :
    s.watchConstruction n c = (s.did (.awaitConstruction n c)).learnInterpreter n c result := by
  have hmaking : (s.did (.awaitConstruction n c)).making? c = some (.ended result) := h
  simp only [watchConstruction, hmaking]

/-- The construction that the evaluation joins has failed before. -/
theorem comes_known (hq : Quiet s) (chunk : String) (h : s.current = none) {c : Nat} {fault : Fault}
    (hc : s.construction = some c) (hm : s.making? c = some (.ended (.error fault))) :
    ∃ outcome w deeds s', Course s s.jobs.length chunk outcome w deeds ∧
      Comes s.jobs.length s outcome w deeds s' ∧
      Leads ((asking chunk s).needInterpreter s.jobs.length) s' := by
  let waiting := (asking chunk s).did (.awaitConstruction s.jobs.length c)
  have hwaiting : Quiet waiting :=
    ⟨⟨hq.halted, hq.ready, hq.cells, hq.guarded, hq.host⟩, hq.resolving, hq.current, hq.inflight,
      hq.construction, hq.hosted⟩
  have hneed : (asking chunk s).needInterpreter s.jobs.length =
      waiting.learnInterpreter s.jobs.length c (.error fault) := by
    have hcurrent : (asking chunk s).current = none := h
    have hconstruction : (asking chunk s).construction = some c := hc
    have hmaking : waiting.making? c = some (.ended (.error fault)) := hm
    simp only [needInterpreter, hcurrent, hconstruction]
    exact watchConstruction_ended hmaking
  have hdone := done_learnInterpreter hwaiting (hwaiting.onTurn (job_asking chunk s)) c fault
  rw [hneed]
  refine ⟨_, _, _, _, .unbuilt (.known h hc hm), comes_of_done hdone rfl rfl rfl (by simp) (by simp)
    (by simp)
    (fun i it w₁ before henters => ?_) rfl, .refl⟩
  cases henters with
  | present hi => simp [h] at hi
  | made _ hnone => simp [hc] at hnone

/-- What the job that is asked for waits for when it has begun to construct an interpreter. -/
theorem needInterpreter_none (chunk : String) (h : s.current = none) (hc : s.construction = none) :
    (asking chunk s).needInterpreter s.jobs.length =
      (constructing s.jobs.length (asking chunk s)).wake (.construction s.constructions.length) := by
  have hcurrent : (asking chunk s).current = none := h
  have hconstruction : (asking chunk s).construction = none := hc
  simp only [needInterpreter, hcurrent, hconstruction]
  exact watchConstruction_newConstruction s.jobs.length (asking chunk s)

/-- A session whose construction of an interpreter for a new evaluation has come to its end. -/
def prepared (chunk : String) (w : World) (result : Except Fault Nat) (s : Session) : Session :=
  built s.constructions.length result
    ((constructing s.jobs.length (asking chunk s)).after w
      [.prepare s.constructions.length, .prepared s.constructions.length result.isOk])

theorem making?_prepared (chunk : String) (w : World) (result : Except Fault Nat) (s : Session) :
    (prepared chunk w result s).making? s.constructions.length = some (.ended result) := by
  simp [making?, prepared, built, setConstruction, Session.after, constructing, asking]

theorem job_prepared (chunk : String) (w : World) (result : Except Fault Nat) (s : Session) :
    (prepared chunk w result s).jobs[s.jobs.length]? =
      some ⟨.evaluate chunk, .awaitingInterpreter s.constructions.length⟩ := by
  simp [prepared, built, setConstruction, Session.after, constructing, asking]

theorem deeds_prepared (chunk : String) (w : World) (result : Except Fault Nat) (s : Session) :
    (prepared chunk w result s).deeds = s.deeds ++
      [.awaitConstruction s.jobs.length s.constructions.length, .prepare s.constructions.length,
        .prepared s.constructions.length result.isOk] := by
  simp [prepared, built, setConstruction, Session.after, constructing, asking]

/-- The job is told that the construction has come to its end. -/
theorem continueJob_prepared (chunk : String) (w : World) (result : Except Fault Nat) (s : Session) :
    (prepared chunk w result s).continueJob s.jobs.length =
      (prepared chunk w result s).learnInterpreter s.jobs.length s.constructions.length result := by
  have hstage : (prepared chunk w result s).stage? s.jobs.length =
      some (.awaitingInterpreter s.constructions.length) := by
    simp [Session.stage?, job_prepared]
  simp only [continueJob, hstage, making?_prepared]

/-- A construction is started and fails. -/
theorem comes_failed (hq : Quiet s) (chunk : String) (h : s.current = none)
    (hc : s.construction = none) {fault : Fault} (hp : s.world.prepareInstaller = (some fault, w)) :
    ∃ outcome w deeds s', Course s s.jobs.length chunk outcome w deeds ∧
      Comes s.jobs.length s outcome w deeds s' ∧
      Leads ((asking chunk s).needInterpreter s.jobs.length) s' := by
  let failing := prepared chunk w (.error fault) s
  have hw : w = s.world.prepareInstaller.2 := by rw [hp]
  have hstore : w.store = s.world.store := by rw [hw, prepareInstaller_store]
  have hfailing : Quiet failing := by
    refine ⟨⟨hq.halted, hq.ready, hq.cells, ?_, hq.host⟩, hq.resolving, hq.current, hq.inflight,
      fun _ k hk => ?_, ?_⟩
    · exact hstore ▸ hq.guarded
    · obtain rfl : s.constructions.length = k := Option.some.inj hk
      exact ⟨fault, making?_prepared chunk w (.error fault) s⟩
    · exact hstore ▸ hq.hosted
  have hnot (i : Nat) (it : Interpreter) (w₁ : World) (before : List Deed) :
      ¬Enters s s.jobs.length (.ok (i, it)) w₁ before := by
    rintro (hi | _)
    · simp [h] at hi
    · simp_all
  have hbegins : Leads ((asking chunk s).needInterpreter s.jobs.length)
      ((failing.wake (.relay s.jobs.length)).haltOn (some fault)) := by
    let begun := (constructing s.jobs.length (asking chunk s)).after w [.prepare s.constructions.length]
    let failed := begun.after w [.prepared s.constructions.length false]
    have hfailed : failed = (constructing s.jobs.length (asking chunk s)).after w
        [.prepare s.constructions.length, .prepared s.constructions.length false] :=
      after_after w w _ _ _
    have hbuilds : Builds s.jobs.length s.constructions.length failed :=
      ⟨hq.halted, hq.ready, .starting, by
        simp [failed, begun, Session.after, constructing, asking]⟩
    obtain ⟨stage, hleads⟩ := leads_constructing (quiet_asking hq chunk) s.jobs.length
    have hworld : (asking chunk s).world.prepareInstaller = (some fault, w) := hp
    rw [hworld] at hleads
    rw [needInterpreter_none chunk h hc]
    refine hleads.trans ?_
    change Leads ((failed.setConstruction s.constructions.length stage).endConstruction
      s.constructions.length (.error fault)) _
    rw [endConstruction_eq hbuilds, hfailed]
    exact .refl
  by_cases hfatal : isFatal fault
  · let final : Session := { failing.wake (.relay s.jobs.length) with halted := some fault }
    have hends : final.outcome? s.jobs.length = some (.error fault) := by
      have hwaits : final.stage? s.jobs.length =
          some (.awaitingInterpreter s.constructions.length) := by
        have hjob : final.jobs[s.jobs.length]? = _ := job_prepared chunk w (.error fault) s
        simp [Session.stage?, hjob]
      unfold outcome? result?
      rw [hwaits]
      rfl
    rw [haltOn_fatal (s := failing.wake (.relay s.jobs.length)) hfatal hfailing.halted] at hbegins
    refine ⟨_, w, _, final, .unbuilt (.failed h hc hp), ⟨advance_of_halted rfl, hends, rfl,
      deeds_prepared chunk w (.error fault) s, by simp, by simp, by simp, ?_, fun _ => List.prefix_rfl,
      fun _ i it w₁ before henters => absurd henters (hnot i it w₁ before), fun _ => rfl,
      fun _ hnone => by cases hnone⟩, hbegins⟩
    rintro f hf
    obtain rfl : fault = f := Option.some.inj hf
    exact ⟨hfatal, rfl⟩
  · have hgoes : (failing.wake (.relay s.jobs.length)).haltOn (some fault) =
        failing.wake (.relay s.jobs.length) :=
      haltOn_of_not_fatal fun f hf => by cases hf; simpa using hfatal
    have hdone := done_learnInterpreter hfailing (hfailing.onTurn (job_prepared chunk w (.error fault) s))
      s.constructions.length fault
    rw [hgoes] at hbegins
    have hrelay := leads_relay hfailing.halted hfailing.ready s.jobs.length
    rw [continueJob_prepared] at hrelay
    exact ⟨_, w, _, _, .unbuilt (.failed h hc hp), comes_of_done hdone rfl
      (deeds_prepared chunk w (.error fault) s) rfl (by simp) (by simp) (by simp) hnot rfl,
      hbegins.trans hrelay⟩

/-- A session whose construction has made an interpreter for a new evaluation. -/
def housed (chunk : String) (it : Interpreter) (w : World) (s : Session) : Session :=
  { prepared chunk w (.ok s.cells.length) s with
    cells := s.cells ++ [{ interpreter := it }]
    current := some s.cells.length }

theorem quiet_housed (hq : Quiet s) (chunk : String) {it : Interpreter}
    (hentered : Entered s s.cells.length it w) : Quiet (housed chunk it w s) := by
  have htop (a : Address) (ha : (housed chunk it w s).IsTop a) : s.IsTop a ∨ a = it.globals := by
    obtain ⟨cell, hcell, rfl⟩ := ha
    rcases List.mem_append.1 hcell with hold | hnew
    · exact .inl ⟨cell, hold, rfl⟩
    · exact .inr (by rw [List.mem_singleton.1 hnew])
  refine ⟨⟨hq.halted, hq.ready, fun cell hcell => ?_, fun a ha => hentered.guarded a (htop a ha),
    fun ha => hentered.host (htop _ ha)⟩, hq.resolving, fun i hi => ?_, hq.inflight, by simp [housed],
    fun hnil => ?_⟩
  · rcases List.mem_append.1 hcell with hold | hnew
    · exact hq.cells cell hold
    · rw [List.mem_singleton.1 hnew]
      exact ⟨rfl, hentered.pending⟩
  · obtain rfl : s.cells.length = i := Option.some.inj hi
    simp [housed]
  · simp [housed] at hnil

/-- An interpreter is constructed. -/
theorem comes_made (hq : Quiet s) (chunk : String) (h : s.current = none)
    (hc : s.construction = none) (hp : s.world.prepareInstaller = (none, w)) :
    ∃ outcome w deeds s', Course s s.jobs.length chunk outcome w deeds ∧
      Comes s.jobs.length s outcome w deeds s' ∧
      Leads ((asking chunk s).needInterpreter s.jobs.length) s' := by
  let it := (Interpreter.make w).1
  let ready := (Interpreter.make w).2.note .info .interpreter "Embedded runtime ready"
  let home := housed chunk it ready s
  have hentered : Entered s s.cells.length it ready := entered_made hq hp
  have hhome : Quiet home := quiet_housed hq chunk hentered
  have hbegins : Leads ((asking chunk s).needInterpreter s.jobs.length)
      (home.wake (.relay s.jobs.length)) := by
    let begun := (constructing s.jobs.length (asking chunk s)).after w [.prepare s.constructions.length]
    let made : Session :=
      { begun.after ready [.prepared s.constructions.length true] with
        cells := s.cells ++ [{ interpreter := it }]
        current := some s.cells.length }
    have hmade : built s.constructions.length (.ok s.cells.length) made = home := by
      simp only [made, begun, after_after]
      rfl
    have hbuilds : Builds s.jobs.length s.constructions.length made :=
      ⟨hq.halted, hq.ready, .starting, by
        simp [made, begun, Session.after, constructing, asking]⟩
    obtain ⟨stage, hleads⟩ := leads_constructing (quiet_asking hq chunk) s.jobs.length
    have hworld : (asking chunk s).world.prepareInstaller = (none, w) := hp
    rw [hworld] at hleads
    rw [needInterpreter_none chunk h hc]
    refine hleads.trans ?_
    change Leads ((made.setConstruction s.constructions.length stage).endConstruction
      s.constructions.length (.ok s.cells.length)) _
    rw [endConstruction_eq hbuilds, hmade, haltOn_of_not_fatal (fun _ hf => by cases hf)]
    exact .refl
  have hi : s.cells.length < home.cells.length := by simp [home, housed]
  have hcell : (home.cell s.cells.length).interpreter = it := by simp [home, housed, Session.cell]
  have hjob : home.jobs[s.jobs.length]? = _ := job_prepared chunk ready (.ok s.cells.length) s
  have hstage : home.stage? s.jobs.length = some (.awaitingInterpreter s.constructions.length) := by
    simp [Session.stage?, hjob]
  have hmaking : home.making? s.constructions.length = some (.ended (.ok s.cells.length)) :=
    making?_prepared chunk ready (.ok s.cells.length) s
  obtain ⟨outcome, w', deeds, s', hproceeds, hserved, hleads⟩ :=
    leads_withInterpreter hhome (hhome.onTurn hjob) hi
  have hrelay : Leads (home.wake (.relay s.jobs.length))
      (home.withInterpreter s.jobs.length s.cells.length) := by
    have hcontinue : home.continueJob s.jobs.length =
        home.withInterpreter s.jobs.length s.cells.length := by
      simp only [continueJob, hstage, hmaking, learnInterpreter]
    exact hcontinue ▸ leads_relay hhome.halted hhome.ready s.jobs.length
  rw [hcell] at hproceeds
  have hcells (hsome : outcome.isSome) : s'.cells = s.cells ++ [{ interpreter := it }] :=
    hserved.cells hsome
  refine ⟨outcome, w', _, s', .entered (.made h hc hp) (hproceeds.of_eq rfl rfl rfl),
    ⟨hserved.rest, hserved.ends, hserved.settings, ?_, fun a j hmem => ?_,
      fun m a f hmem => hserved.attempted m a f (by simpa using hmem), fun m c hmem _ => ?_,
      hserved.halted, fun hsome => ?_, fun hsome i it' w₁ before henters => ?_,
      hserved.world, hserved.quiet⟩, hbegins.trans (hrelay.trans hleads)⟩
  · have hdeeds : home.deeds = _ := deeds_prepared chunk ready (.ok s.cells.length) s
    rw [hserved.did]
    simp only [did, hdeeds, List.append_assoc]
    rfl
  · exact hserved.crossed a j (by simpa using hmem)
  · obtain ⟨-, rfl⟩ : m = s.jobs.length ∧ c = s.constructions.length := by
      have hnot : .awaitConstruction m c ∉ deeds := hproceeds.not_mem rfl rfl (by simp) (by simp) (by simp)
      simpa [hnot] using hmem
    refine ⟨s.cells.length, Eq.trans ?_ hmaking⟩
    unfold making?
    rw [hserved.constructions]
    rfl
  · rw [hcells hsome]
    exact List.prefix_append _ _
  · cases henters with
    | present hi => simp [h] at hi
    | made _ _ hp' =>
      obtain ⟨-, rfl⟩ := Prod.mk.inj (hp.symm.trans hp')
      simp [hcells hsome, it]

/-- The evaluation of a chunk by a session in which nothing else is under way. -/
theorem serves_evaluation (hq : Quiet s) (chunk : String) :
    ∃ outcome w deeds s', Course s s.jobs.length chunk outcome w deeds ∧
      Comes s.jobs.length s outcome w deeds s' ∧ Serves (.evaluate chunk) s s' := by
  have hneed : ∃ outcome w deeds s', Course s s.jobs.length chunk outcome w deeds ∧
      Comes s.jobs.length s outcome w deeds s' ∧
      Leads ((asking chunk s).needInterpreter s.jobs.length) s' := by
    rcases hcurrent : s.current with _ | i
    · rcases hconstruction : s.construction with _ | c
      · rcases hprepare : s.world.prepareInstaller with ⟨_ | fault, w⟩
        · exact comes_made hq chunk hcurrent hconstruction hprepare
        · exact comes_failed hq chunk hcurrent hconstruction hprepare
      · obtain ⟨fault, hmaking⟩ := hq.construction hcurrent c hconstruction
        exact comes_known hq chunk hcurrent hconstruction hmaking
    · exact comes_present hq chunk hcurrent
  obtain ⟨outcome, w, deeds, s', hcourse, hcomes, hleads⟩ := hneed
  exact ⟨outcome, w, deeds, s', hcourse, hcomes, (leads_submit hq chunk).trans hleads, hcomes.rest⟩

end Chunkwise.Session
