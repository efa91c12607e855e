import Chunkwise.Proofs.Session.Alone.Attempt
import Chunkwise.Proofs.Session.Alone.Chunk

/-!
An evaluation alone, from its request to its end.
-/
namespace Chunkwise.Session
open Chunkwise.Execution Chunkwise.World Store

variable {s s' s₁ : Session} {n i a : Nat} {chunk : String} {w : World}

theorem OnTurn.scanOf (h : OnTurn n chunk s) : s.scanOf n = asked s.settings chunk := by
  unfold Session.scanOf
  rw [h.request?]
  rfl

/-! The end of a job. -/

/-- What a job alone leaves when it has come to its end, or is stuck in its code. -/
structure Done (n : Nat) (s : Session) (outcome : Option (Except Fault Value)) (w : World)
    (deeds : List Deed) (s' : Session) : Prop where
  rest : s'.advance = none
  ends : s'.outcome? n = outcome
  halted : s'.halted = none
  settings : s'.settings = s.settings
  deeds : s'.deeds = s.deeds ++ deeds
  attempts : s'.attempts = s.attempts
  constructions : s'.constructions = s.constructions
  cells : outcome.isSome → s'.cells = s.cells
  world : outcome.isSome → s'.world = w
  quiet : outcome.isSome → Quiet s'

theorem Quiet.after (h : Quiet s) (hw : Guarded s.IsTop w.store)
    (hsize : s.cells = [] → hostScope < w.store.objects.size) (deeds : List Deed) :
    Quiet (s.after w deeds) :=
  ⟨h.toStill.after hw deeds, h.resolving, h.current, h.inflight, h.construction, hsize⟩

theorem Quiet.setJob (h : Quiet s) (n : Nat) (stage : Stage) : Quiet (s.setJob n stage) :=
  ⟨h.toStill.setJob n stage, h.resolving, h.current, h.inflight, h.construction, h.hosted⟩

theorem Quiet.onTurn (h : Quiet s) {stage : Stage} (hn : s.jobs[n]? = some ⟨.evaluate chunk, stage⟩) :
    OnTurn n chunk s :=
  ⟨h.toStill, stage, hn⟩

theorem outcome?_setJob (h : OnTurn n chunk s) (stage : Stage) (hh : s.halted = none) :
    (s.setJob n stage).outcome? n =
      match stage with
      | .ended result => some result
      | _ => none := by
  have hhalted : (s.setJob n stage).halted = none := hh
  unfold outcome? result?
  rw [h.stage?_setJob, hhalted]
  cases stage <;> rfl

theorem done_of_stops {outcome : Option (Except Fault Value)} {deeds : List Deed} (hq : Quiet s)
    (h : OnTurn n chunk s) (hi : i < s.cells.length) (hw : outcome.isSome → Guarded s.IsTop w.store)
    (hs : Stops n i s w deeds outcome s') : Done n s outcome w deeds s' := by
  have hcells : s.cells ≠ [] := fun hnil => by simp [hnil] at hi
  cases hs with
  | @ended result =>
    have hafter := hq.after (hw rfl) (fun hnil => absurd hnil hcells) deeds
    exact ⟨advance_of_ready h.still.ready, outcome?_setJob (h.after (hw rfl) deeds) _ h.still.halted,
      h.still.halted, rfl, rfl, rfl, rfl, fun _ => rfl, fun _ => rfl, fun _ => hafter.setJob n _⟩
  | @stuck pending w' =>
    have hstage : ((busy i pending w' (s.after w deeds)).setJob n .stuck).stage? n = some .stuck :=
      h.stage?_setJob .stuck
    have hhalted : ((busy i pending w' (s.after w deeds)).setJob n .stuck).halted = none :=
      h.still.halted
    refine ⟨advance_of_ready h.still.ready, ?_, hhalted, rfl, rfl, rfl, rfl, by simp, by simp, by simp⟩
    unfold outcome? result?
    rw [hstage, hhalted]
    rfl

/-- An evaluation that has all that it needs but its packages comes to its end, or is stuck. -/
theorem leads_afterBridge (hq : Quiet s) (h : OnTurn n chunk s) (hi : i < s.cells.length) :
    ∃ outcome w deeds s',
      Finishes (s.cell i).interpreter s.file n i (asked s.settings chunk) s.world outcome w deeds ∧
      Done n s outcome w deeds s' ∧ Leads (s.queueResolving n i) s' := by
  obtain ⟨outcome, w, deeds, s', hf, hstops, hleads⟩ := leads_queueResolving h hq.resolving hi
  rw [h.scanOf] at hf
  refine ⟨outcome, w, deeds, s', hf, done_of_stops hq h hi (fun hsome => ?_) hstops, hleads⟩
  obtain ⟨result, rfl⟩ := Option.isSome_iff_exists.1 hsome
  exact hf.guarded hq.guarded (hq.toStill.pending hi)

/-! Loading the heavy library. -/

/-- A session that has begun to load the heavy library for a job. -/
def striving (n i : Nat) (s : Session) : Session :=
  { s with
    crossings := s.crossings.modify s.bridge fun c =>
      { c with status := .loading, attempts := c.attempts + 1, inflight := some s.attempts.length }
    attempts := s.attempts ++ [{ bridge := s.bridge, interpreter := i, watchers := [n] }]
    jobs := s.jobs.modify n fun job => { job with stage := .awaitingBridge i s.attempts.length }
    deeds := s.deeds ++ [.awaitAttempt n s.attempts.length] }

theorem watchAttempt_newAttempt (n i : Nat) (s : Session) :
    (s.newAttempt i).watchAttempt n i s.attempts.length =
      (striving n i s).wake (.attempt s.attempts.length) := by
  have hwatch : (s.attempts ++ [({ bridge := s.bridge, interpreter := i } : Attempt)]).modify
      s.attempts.length (fun made => { made with watchers := made.watchers ++ [n] }) =
      s.attempts ++ [{ bridge := s.bridge, interpreter := i, watchers := [n] }] := by
    simp [List.modify_eq_set_getElem?]
  simp only [newAttempt, watchAttempt, striving, wake, did, mapCrossing, setJob]
  rw [hwatch]

/-- A session whose attempt to load the heavy library has come to its end. -/
def landed (a i : Nat) (fault : Option Fault) (s : Session) : Session :=
  { s with
    crossings := s.crossings.modify s.bridge fun c =>
      { c with status := if fault.isNone then .ready else .failed, inflight := none }
    attempts := s.attempts.modify a fun made => { made with stage := .ended fault }
    deeds := s.deeds ++ if fault.isNone then [.crossed a i] else [] }

theorem endAttempt_eq (h : Strives n a i s) (fault : Option Fault) :
    s.endAttempt a fault = ((landed a i fault s).wake (.relay n)).haltOn fault := by
  obtain ⟨stage, hattempt⟩ := h.attempt
  cases fault <;>
    simp [endAttempt, landed, wake, did, mapCrossing, setAttempt, wakeAll, interpreterOf, bridgeOf,
      hattempt]

theorem strives_striving (hq : Quiet s) (hi : i < s.cells.length) (n : Nat) :
    Strives n s.attempts.length i (striving n i s) :=
  ⟨⟨hq.halted, hq.ready, hq.cells, hq.guarded, hq.host⟩, ⟨.starting, by simp [striving]⟩, hi⟩

/-- The attempt that has been started takes its first turn. -/
theorem leads_striving (hq : Quiet s) (hi : i < s.cells.length) (n : Nat) :
    Leads ((striving n i s).wake (.attempt s.attempts.length))
      ((striving n i s).startAttempt s.attempts.length) := by
  have hstrives := strives_striving hq hi n
  have hstage : (striving n i s).attempts[s.attempts.length]? =
      some ⟨s.bridge, i, .starting, [n]⟩ := by simp [striving]
  have hself := setAttempt_self hstage
  have hturn := hstrives.leads_turn .starting
  have hgo : (striving n i s).continueAttempt s.attempts.length =
      (striving n i s).startAttempt s.attempts.length := by
    have hloading : (striving n i s).loading? s.attempts.length = some .starting := by
      simp [loading?, hstage]
    simp only [continueAttempt, hloading]
  dsimp only at hself
  rwa [hself, hgo] at hturn

theorem quiet_landed (hq : Quiet s) (hi : i < s.cells.length) (n : Nat) (fault : Option Fault)
    (hw : Guarded s.IsTop w.store) (deeds : List Deed) :
    Quiet (landed s.attempts.length i fault ((striving n i s).after w deeds)) := by
  refine ⟨⟨hq.halted, hq.ready, hq.cells, hw, hq.host⟩, hq.resolving, hq.current, ?_,
    hq.construction, fun hnil => ?_⟩
  · simp only [crossing, landed, Session.after, striving, List.getElem?_modify_eq]
    rcases s.crossings[s.bridge]? with _ | crossing <;> rfl
  · have hcells : s.cells = [] := hnil
    simp [hcells] at hi

theorem onTurn_landed (hq : Quiet s) (h : OnTurn n chunk s) (hi : i < s.cells.length)
    (fault : Option Fault) (hw : Guarded s.IsTop w.store) (deeds : List Deed) :
    (landed s.attempts.length i fault ((striving n i s).after w deeds)).stage? n =
        some (.awaitingBridge i s.attempts.length) ∧
      OnTurn n chunk (landed s.attempts.length i fault ((striving n i s).after w deeds)) := by
  obtain ⟨stage, hjob⟩ := h.job
  have hlanded : (landed s.attempts.length i fault ((striving n i s).after w deeds)).jobs[n]? =
      some ⟨.evaluate chunk, .awaitingBridge i s.attempts.length⟩ := by
    simp [landed, Session.after, striving, hjob]
  exact ⟨by simp [Session.stage?, hlanded], (quiet_landed hq hi n fault hw deeds).onTurn hlanded⟩

theorem loading?_landed (n i : Nat) (fault : Option Fault) (w : World) (deeds : List Deed) (s : Session) :
    (landed s.attempts.length i fault ((striving n i s).after w deeds)).loading?
      s.attempts.length = some (.ended fault) := by
  simp [loading?, landed, Session.after, striving]

/-- What an evaluation alone leaves when it has come to its end, or is stuck in code. -/
structure Served (n : Nat) (s : Session) (outcome : Option (Except Fault Value)) (w : World)
    (deeds : List Deed) (s' : Session) : Prop where
  rest : s'.advance = none
  ends : s'.outcome? n = outcome
  settings : s'.settings = s.settings
  constructions : s'.constructions = s.constructions
  crossed : ∀ a j, .crossed a j ∈ deeds → s'.loading? a = some (.ended none)
  attempted : ∀ m a fault, .awaitAttempt m a ∈ deeds →
    s'.loading? a = some (.ended (some fault)) → outcome = some (.error fault)
  did : s'.deeds = s.deeds ++ deeds
  halted : ∀ fault, s'.halted = some fault → isFatal fault ∧ outcome = some (.error fault)
  cells : outcome.isSome → s'.cells = s.cells
  world : outcome.isSome → s'.world = w
  quiet : outcome.isSome → s'.halted = none → Quiet s'

theorem served_of_done {outcome : Option (Except Fault Value)} {deeds : List Deed}
    (h : Done n s outcome w deeds s') (hd : ∀ a j, .crossed a j ∉ deeds)
    (ha : ∀ m a, .awaitAttempt m a ∉ deeds) : Served n s outcome w deeds s' :=
  ⟨h.rest, h.ends, h.settings, h.constructions, fun a j hmem => absurd hmem (hd a j),
    fun m a _ hmem => absurd hmem (ha m a), h.deeds,
    fun _ hfault => by simp [h.halted] at hfault, h.cells, h.world, fun hsome _ => h.quiet hsome⟩

theorem haltOn_fatal {fault : Fault} (hf : isFatal fault) (hh : s.halted = none) :
    s.haltOn (some fault) = { s with halted := some fault } := by
  simp [haltOn, hf, hh]

theorem haltOn_of_not_fatal {fault : Option Fault} (hf : ∀ f, fault = some f → isFatal f = false) :
    s.haltOn fault = s := by
  have hnone : fault.filter isFatal = none := by
    cases fault with
    | none => rfl
    | some f => simp [Option.filter, hf f rfl]
  simp [haltOn, hnone]

/-- Nothing that is done for an attempt waits for one. -/
theorem eq_of_awaitAttempt {adapter : Option String} {deeds : List Deed} {a₀ m : Nat}
    (hd : Toils a₀ adapter deeds) (h : .awaitAttempt m a ∈ .awaitAttempt n a₀ :: deeds) : a = a₀ := by
  rcases List.mem_cons.1 h with heq | hmem
  · exact (Deed.awaitAttempt.inj heq).2
  · exact absurd hmem (hd.not_mem rfl)

/-- An attempt that has failed ends the job that waits for it. -/
theorem served_uncrossed (hq : Quiet s) (h : OnTurn n chunk s) (hi : i < s.cells.length)
    (fault : Fault) (hw : Guarded s.IsTop w.store) {adapter : Option String} {deeds : List Deed}
    (hd : Toils s.attempts.length adapter deeds) :
    ∃ s', Served n s (some (.error fault)) w (.awaitAttempt n s.attempts.length :: deeds) s' ∧
      Leads (((striving n i s).after w deeds).endAttempt s.attempts.length (some fault)) s' := by
  let landing := landed s.attempts.length i (some fault) ((striving n i s).after w deeds)
  have hlanding : Quiet landing := quiet_landed hq hi n (some fault) hw deeds
  obtain ⟨hstage, hturn⟩ := onTurn_landed hq h hi (some fault) hw deeds
  have hdeeds : landing.deeds = s.deeds ++ .awaitAttempt n s.attempts.length :: deeds := by
    simp [landing, landed, Session.after, striving]
  have hcrossed (a j : Nat) : .crossed a j ∉ .awaitAttempt n s.attempts.length :: deeds := by
    simpa using hd.not_mem rfl
  have hattempted {s₁ : Session} (hsame : s₁.attempts = landing.attempts) (m a : Nat) (f : Fault)
      (hmem : .awaitAttempt m a ∈ .awaitAttempt n s.attempts.length :: deeds)
      (hf : s₁.loading? a = some (.ended (some f))) :
      (some (.error fault) : Option (Except Fault Value)) = some (.error f) := by
    obtain rfl := eq_of_awaitAttempt hd hmem
    have hended := loading?_landed n i (some fault) w deeds s
    unfold loading? at hf hended
    rw [hsame, hended] at hf
    cases hf
    rfl
  rw [endAttempt_eq ((strives_striving hq hi n).after hw deeds)]
  by_cases hfatal : isFatal fault
  · have hhalted : (landing.wake (.relay n)).halted = none := hlanding.halted
    rw [haltOn_fatal hfatal hhalted]
    let final : Session := { landing.wake (.relay n) with halted := some fault }
    have hends : final.outcome? n = some (.error fault) := by
      have hwaits : final.stage? n = some (.awaitingBridge i s.attempts.length) := hstage
      unfold outcome? result?
      rw [hwaits]
      rfl
    refine ⟨final, ⟨advance_of_halted rfl, hends, rfl, rfl, fun a j hmem => absurd hmem (hcrossed a j),
      hattempted rfl, hdeeds, ?_, fun _ => rfl, fun _ => rfl, by simp [final]⟩, .refl⟩
    rintro f hf
    obtain rfl : fault = f := Option.some.inj hf
    exact ⟨hfatal, rfl⟩
  · have hgoes : (landing.wake (.relay n)).haltOn (some fault) = landing.wake (.relay n) :=
      haltOn_of_not_fatal fun f hf => by cases hf; simpa using hfatal
    have hcontinue : landing.continueJob n = landing.endJob n (.error fault) := by
      simp only [continueJob, landing, hstage, loading?_landed]
    rw [hgoes]
    refine ⟨landing.endJob n (.error fault), ⟨advance_of_ready hlanding.ready,
      outcome?_setJob hturn _ hlanding.halted, rfl, rfl,
      fun a j hmem => absurd hmem (hcrossed a j), hattempted rfl, hdeeds, fun f hf => ?_,
      fun _ => rfl, fun _ => rfl,
      fun _ _ => hlanding.setJob n _⟩, hcontinue ▸ leads_relay hlanding.halted hlanding.ready n⟩
    have hhalted : landing.halted = some f := hf
    simp [hlanding.halted] at hhalted

/-- An attempt that has succeeded lets the job that waits for it go on. -/
theorem served_crossed (hq : Quiet s) (h : OnTurn n chunk s) (hi : i < s.cells.length)
    (hw : Guarded s.IsTop w.store) {adapter : Option String} {deeds : List Deed}
    (hd : Toils s.attempts.length adapter deeds) :
    ∃ outcome w' later s',
      Finishes (s.cell i).interpreter s.file n i (asked s.settings chunk) w outcome w' later ∧
      Served n s outcome w'
        (.awaitAttempt n s.attempts.length :: deeds ++ .crossed s.attempts.length i :: later) s' ∧
      Leads (((striving n i s).after w deeds).endAttempt s.attempts.length none) s' := by
  let landing := landed s.attempts.length i none ((striving n i s).after w deeds)
  have hlanding : Quiet landing := quiet_landed hq hi n none hw deeds
  obtain ⟨hstage, hturn⟩ := onTurn_landed hq h hi none hw deeds
  have hdeeds : landing.deeds =
      s.deeds ++ (.awaitAttempt n s.attempts.length :: deeds ++ [.crossed s.attempts.length i]) := by
    simp [landing, landed, Session.after, striving]
  obtain ⟨outcome, w', later, s', hf, hdone, hleads⟩ := leads_afterBridge hlanding hturn hi
  have hcontinue : landing.continueJob n = landing.queueResolving n i := by
    simp only [continueJob, landing, hstage, loading?_landed, afterBridge, hturn.request?]
  have hbegins : Leads (((striving n i s).after w deeds).endAttempt s.attempts.length none)
      (landing.queueResolving n i) := by
    rw [endAttempt_eq ((strives_striving hq hi n).after hw deeds), haltOn_of_not_fatal (fun _ hf => by cases hf),
      ← hcontinue]
    exact leads_relay hlanding.halted hlanding.ready n
  have hended : s'.loading? s.attempts.length = some (.ended none) := by
    have hloading := loading?_landed n i none w deeds s
    unfold loading? at hloading ⊢
    rw [hdone.attempts]
    exact hloading
  have hlater {m a : Nat} (hmem : .awaitAttempt m a ∈
      .awaitAttempt n s.attempts.length :: deeds ++ .crossed s.attempts.length i :: later) :
      a = s.attempts.length := by
    have hnot : .awaitAttempt m a ∉ later := hf.not_mem rfl (by simp)
    exact eq_of_awaitAttempt (n := n) (m := m) hd (by simpa [hnot] using hmem)
  refine ⟨outcome, w', later, s', hf, ⟨hdone.rest, hdone.ends, hdone.settings, hdone.constructions,
    fun a j hmem => ?_, fun m a f hmem hfailed => ?_, ?_,
    fun f hfault => by simp [hdone.halted] at hfault, hdone.cells, hdone.world,
    fun hsome _ => hdone.quiet hsome⟩, hbegins.trans hleads⟩
  · have hattempt : .crossed a j ∉ deeds := hd.not_mem rfl
    have hnot : .crossed a j ∉ later := hf.not_mem rfl (by simp)
    obtain ⟨rfl, -⟩ : a = s.attempts.length ∧ j = i := by simpa [hattempt, hnot] using hmem
    exact hended
  · rw [hlater hmem, hended] at hfailed
    cases hfailed
  · rw [hdone.deeds, hdeeds]
    simp

/-- A job waits for an attempt that is stuck in the adapter source. -/
theorem served_striving (hq : Quiet s) (h : OnTurn n chunk s) (pending : List Char) (w w' : World)
    {adapter : Option String} {deeds : List Deed} (hd : Toils s.attempts.length adapter deeds) :
    Served n s none w (.awaitAttempt n s.attempts.length :: deeds)
      ((busy i pending w' ((striving n i s).after w deeds)).setAttempt s.attempts.length .stuck) := by
  obtain ⟨stage, hjob⟩ := h.job
  let final := (busy i pending w' ((striving n i s).after w deeds)).setAttempt s.attempts.length
    .stuck
  have hhalted : final.halted = none := hq.halted
  have hwaits : final.stage? n = some (.awaitingBridge i s.attempts.length) := by
    simp [Session.stage?, final, setAttempt, busy, Session.after, striving, hjob]
  have hends : final.outcome? n = none := by
    unfold outcome? result?
    rw [hwaits, hhalted]
    rfl
  have hdid : final.deeds = s.deeds ++ .awaitAttempt n s.attempts.length :: deeds := by
    simp [final, setAttempt, busy, Session.after, striving]
  have hloading : final.loading? s.attempts.length = some .stuck := by
    simp [loading?, final, setAttempt, busy, Session.after, striving]
  refine ⟨advance_of_ready hq.ready, hends, rfl, rfl, fun a j hmem => ?_,
    fun m a f hmem hfailed => ?_, hdid, fun f hf => ?_, by simp, by simp, by simp⟩
  · have hnot : .crossed a j ∉ deeds := hd.not_mem rfl
    simp [hnot] at hmem
  · have hsome : final.loading? a = some (.ended (some f)) := hfailed
    rw [eq_of_awaitAttempt hd hmem, hloading] at hsome
    cases hsome
  · have hsome : final.halted = some f := hf
    simp [hhalted] at hsome

/-- The library is loaded for a job that needs it, and the job goes on. -/
theorem leads_needBridge (hq : Quiet s) (h : OnTurn n chunk s) (hi : i < s.cells.length)
    (hneeds : NeedsBridge s (asked s.settings chunk)) :
    ∃ outcome w deeds s',
      Proceeds s (s.cell i).interpreter n i (asked s.settings chunk) s.world outcome w deeds ∧
      Served n s outcome w deeds s' ∧ Leads (s.needBridge n i) s' := by
  have hbegin : s.needBridge n i = (striving n i s).wake (.attempt s.attempts.length) := by
    simp only [needBridge, if_neg hneeds.2, hq.inflight]
    exact watchAttempt_newAttempt n i s
  have hstrives := strives_striving hq hi n
  obtain ⟨entries, outcome, w, adapter, deeds, s', hcrosses, hd, hlands, hleads⟩ :=
    leads_startAttempt hstrives
  replace hleads := (leads_striving hq hi n).trans hleads
  rw [← hbegin] at hleads
  cases hlands with
  | @ended fault more =>
    have hnoted : Guarded s.IsTop (s.world.noting entries).store := hq.guarded
    obtain ⟨_, -, hleaves⟩ := hcrosses.leaves hnoted hq.host (hq.toStill.pending hi)
    have hw : Guarded s.IsTop (w.noting more).store := hleaves.guarded
    cases fault with
    | some fault =>
      obtain ⟨s', hserved, hends⟩ := served_uncrossed hq h hi fault hw hd
      exact ⟨_, _, _, s', .uncrossed hneeds hcrosses hd, hserved, hleads.trans hends⟩
    | none =>
      obtain ⟨outcome, w', later, s', hf, hserved, hends⟩ := served_crossed hq h hi hw hd
      exact ⟨_, _, _, s', .crossed hneeds hcrosses hd hf, hserved, hleads.trans hends⟩
  | @stuck pending w' =>
    exact ⟨none, w, _, _, .stuck hneeds hcrosses hd, served_striving hq h pending w w' hd, hleads⟩

/-! In an interpreter. -/

theorem Proceeds.of_eq {it : Interpreter} {scan : Import.Scan} {w' : World}
    {outcome : Option (Except Fault Value)} {deeds : List Deed}
    (h : Proceeds s₁ it n i scan w outcome w' deeds) (settings : s₁.settings = s.settings)
    (attempts : s₁.attempts = s.attempts) (crossing : s₁.crossing = s.crossing) :
    Proceeds s it n i scan w outcome w' deeds := by
  have hneeds : NeedsBridge s₁ scan ↔ NeedsBridge s scan := by rw [NeedsBridge, NeedsBridge, crossing]
  have hfile : s₁.file = s.file := congrArg (·.get .filename) settings
  cases h with
  | straight hn hf => exact .straight (fun hs => hn (hneeds.2 hs)) (hfile ▸ hf)
  | uncrossed hn hc hd =>
    rw [attempts] at hd ⊢
    exact .uncrossed (hneeds.1 hn) (settings ▸ hc) hd
  | crossed hn hc hd hf =>
    rw [attempts] at hd ⊢
    exact .crossed (hneeds.1 hn) (settings ▸ hc) hd (hfile ▸ hf)
  | stuck hn hc hd =>
    rw [attempts] at hd ⊢
    exact .stuck (hneeds.1 hn) (settings ▸ hc) hd

/-- An evaluation goes on in its interpreter. -/
theorem leads_withInterpreter (hq : Quiet s) (h : OnTurn n chunk s) (hi : i < s.cells.length) :
    ∃ outcome w deeds s',
      Proceeds s (s.cell i).interpreter n i (asked s.settings chunk) s.world outcome w deeds ∧
      Served n (s.did (.enter n i)) outcome w deeds s' ∧ Leads (s.withInterpreter n i) s' := by
  let entered := s.did (.enter n i)
  have hentered : Quiet entered :=
    ⟨⟨hq.halted, hq.ready, hq.cells, hq.guarded, hq.host⟩, hq.resolving, hq.current, hq.inflight,
      hq.construction, hq.hosted⟩
  have hturn : OnTurn n chunk entered := ⟨hentered.toStill, h.job⟩
  have hwith : s.withInterpreter n i =
      if (asked s.settings chunk).heavy then entered.needBridge n i
      else entered.queueResolving n i := by
    have hrequest : entered.request? n = some (.evaluate chunk) := hturn.request?
    have hscan : entered.scanOf n = asked s.settings chunk := hturn.scanOf
    unfold withInterpreter
    dsimp only
    rw [hrequest]
    dsimp only
    rw [hscan]
  by_cases hneeds : NeedsBridge entered (asked s.settings chunk)
  · obtain ⟨outcome, w, deeds, s', hproceeds, hserved, hleads⟩ :=
      leads_needBridge hentered hturn hi hneeds
    rw [hwith, if_pos hneeds.1]
    exact ⟨outcome, w, deeds, s', hproceeds.of_eq rfl rfl rfl, hserved, hleads⟩
  · have hsame : s.withInterpreter n i = entered.queueResolving n i := by
      rw [hwith]
      by_cases hheavy : (asked s.settings chunk).heavy
      · have hready : entered.crossing.status = .ready :=
          Decidable.byContradiction fun hstatus => hneeds ⟨hheavy, hstatus⟩
        simp only [if_pos hheavy, needBridge, if_pos hready, afterBridge, hturn.request?]
      · rw [if_neg hheavy]
    obtain ⟨outcome, w, deeds, s', hf, hdone, hleads⟩ := leads_afterBridge hentered hturn hi
    rw [hsame]
    exact ⟨outcome, w, deeds, s', .straight hneeds hf,
      served_of_done hdone (fun _ _ => hf.not_mem rfl (by simp)) (fun _ _ => hf.not_mem rfl (by simp)), hleads⟩

end Chunkwise.Session
