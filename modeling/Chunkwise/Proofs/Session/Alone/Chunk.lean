import Chunkwise.Proofs.Session.Alone.Code
import Chunkwise.Proofs.Session.Alone.Course

/-!
A job alone, from the search for packages to its end.
-/
namespace Chunkwise.Session
open Chunkwise.Execution Chunkwise.World Store

variable {s s' : Session} {n i : Nat} {chunk : String} {w : World} {pending : List Char}

theorem endJob_setJob (n : Nat) (stage : Stage) (result : Except Fault Value) (w : World)
    (deeds : List Deed) (s : Session) :
    ((s.setJob n stage).after w deeds).endJob n result = (s.after w deeds).endJob n result :=
  setJob_setJob n _ stage (s.after w deeds)

theorem concludeChunk_eq (n : Nat) (source : String) (result : Except Fault Value) (s : Session) :
    s.concludeChunk n source result =
      (s.after (concluded s.file source result s.world).2 []).endJob n
        (concluded s.file source result s.world).1 := by
  unfold concludeChunk concluded
  rw [after_nil]
  cases result with
  | error fault => rfl
  | ok v =>
    dsimp only
    rcases forwardValue v s.world with ⟨_ | fault, w⟩ <;> rfl

theorem scanOf_setJob (n : Nat) (stage : Stage) (s : Session) :
    (s.setJob n stage).scanOf n = s.scanOf n := by
  simp only [Session.scanOf, request?_setJob]
  rfl

theorem follows_chunk {source : String} (h : OnTurn n chunk s) (hi : i < s.cells.length)
    (hsource : (s.scanOf n).source = source) :
    Follows i (.job n) (fun resume s => s.setJob n (.running i resume))
      (fun r s => s.followChunk n i source r) s where
  still resume := h.still.setJob n (.running i resume)
  again resume resume' := setJob_setJob n (.running i resume') (.running i resume) s
  pause scene resume left pending w hp := by
    simp only [followChunk, busy_leave hp]
    rfl
  goesOn resume scene left hp := by
    let waiting := s.setJob n (.running i resume)
    have hscene : (busy i left scene.world waiting).scene i = scene := by
      rw [busy_scene (s := waiting) hi, ← hp]
    have hscan : ((busy i left scene.world waiting).scanOf n).source = source :=
      (congrArg Import.Scan.source (scanOf_setJob n (.running i resume) s)).trans hsource
    have hstage : (busy i left scene.world waiting).stage? n = some (.running i resume) :=
      h.stage?_setJob _
    simp only [fire, continueJob]
    rw [hstage]
    dsimp only
    rw [hscan, hscene]

/-- Code of a chunk that leaves all that it wrote in the buffer, and nothing in the end, is followed
to its end. -/
theorem leads_followChunk {source : String} {r : Run (Except Fault Value)} {P : Scene → Prop}
    {Q : Except Fault Value → Scene → Prop} (hr : r.All P Q)
    (hP : ∀ scene, P scene → scene.pending.isSome)
    (hQ : ∀ result scene, Q result scene → scene.pending = some []) (h : OnTurn n chunk s)
    (hi : i < s.cells.length) (hsource : (s.scanOf n).source = source) (pending : List Char)
    (w : World) :
    ∃ s', Leads ((busy i pending w s).followChunk n i source r) s' ∧
      (∀ result scene, r.finish = some (result, scene) →
        s' = (s.after (concluded s.file source result scene.world).2 []).endJob n
          (concluded s.file source result scene.world).1) ∧
      (r.finish = none → ∃ pending' w', s' = (busy i pending' w' s).setJob n .stuck) := by
  have hfollows (s₁ : Session) (hs₁ : Holding (fun resume s => s.setJob n (.running i resume)) s s₁) :
      Follows i (.job n) (fun resume s => s.setJob n (.running i resume))
        (fun r s => s.followChunk n i source r) s₁ := by
    rcases hs₁ with rfl | ⟨resume, rfl⟩
    · exact follows_chunk h hi hsource
    · exact follows_chunk (h.setJob _) hi
        ((congrArg Import.Scan.source (scanOf_setJob n _ s)).trans hsource)
  obtain ⟨pending', w', s₁, hs₁, hleads⟩ := leads_follow hr hP hfollows pending w
  refine ⟨_, hleads, fun result scene hfinish => ?_, fun hfinish => ⟨pending', w', ?_⟩⟩
  · have hpending := hQ result scene (hr.finish hfinish)
    simp only [finished, hfinish, followChunk, busy_leave hpending]
    rcases hs₁ with rfl | ⟨resume, rfl⟩
    · rw [busy_release h.still hi, concludeChunk_eq]
      rfl
    · rw [busy_release (h.setJob (.running i resume)).still hi, concludeChunk_eq]
      exact endJob_setJob n (.running i resume) _ _ [] s
  · simp only [finished, hfinish, followChunk]
    rcases hs₁ with rfl | ⟨resume, rfl⟩
    · rfl
    · exact setJob_setJob n .stuck (.running i resume) (busy i pending' w' s)

/-- The session that a job alone leaves when it has come to its end, or is stuck in its code. -/
inductive Stops (n i : Nat) (s : Session) (w : World) (deeds : List Deed) :
    Option (Except Fault Value) → Session → Prop
  | ended {result : Except Fault Value} :
      Stops n i s w deeds (some result) ((s.after w deeds).endJob n result)
  | stuck {pending : List Char} {w' : World} :
      Stops n i s w deeds none ((busy i pending w' (s.after w deeds)).setJob n .stuck)

/-- The code of a chunk is run when no other is running. -/
theorem leads_queueChunk (h : OnTurn n chunk s) (hi : i < s.cells.length) :
    ∃ outcome w s', Executes (s.cell i).interpreter s.file (s.scanOf n).source s.world outcome w ∧
      Stops n i s w [.run n i] outcome s' ∧ Leads (s.queueChunk n i) s' := by
  let source := (s.scanOf n).source
  let it := (s.cell i).interpreter
  let told := s.mapWorld (announced source)
  let started := told.did (.run n i)
  let r := runChunk it.globals s.file source (it.scene told.world)
  have htold : Still told := h.still.mapWorld h.still.guarded
  have hturn : OnTurn n chunk started := ⟨htold.after htold.guarded [.run n i], h.job⟩
  have hscene : started.scene i = { pending := some [], world := told.world } :=
    hturn.still.scene hi
  have hpending : (it.scene told.world).pending = some [] := congrArg Scene.pending hscene
  have hstart : s.queueChunk n i = (busy i [] told.world started).followChunk n i source r := by
    have hbegin : s.queueChunk n i = (told.mapLock i Lock.take).startChunk n i := by
      have hfree : (told.cell i).lock.isFree := by rw [htold.lock hi]; rfl
      change (if (told.cell i).lock.isFree then _ else _) = _
      rw [if_pos hfree]
      rfl
    rw [hbegin, busy_take htold]
    change (busy i [] told.world started).followChunk n i source
      (runChunk ((busy i [] told.world started).cell i).interpreter.globals s.file source
        ((busy i [] told.world started).scene i)) = _
    rw [busy_globals (s := started) i, busy_scene (s := started) hi, ← hscene]
    rfl
  have hrun : it.run s.file source told.world = leaving it r.finish := rfl
  have hall : r.All (Spoken s.IsTop it.globals (.source source) (it.scene told.world)) _ :=
    all_runChunk s.file source htold.guarded hpending
  have hleads := leads_followChunk hall (fun _ h => by obtain ⟨_, _, _, hp, _⟩ := h.heard; simp [hp])
    (fun _ _ h => h.2) hturn hi rfl [] told.world
  obtain ⟨s', hleads, hended, hstuck⟩ := hleads
  rw [hstart]
  rcases hfinish : r.finish with _ | ⟨result, scene⟩
  · obtain ⟨pending, w', rfl⟩ := hstuck hfinish
    have hnone : it.run s.file source told.world = none := by rw [hrun, hfinish]; rfl
    exact ⟨none, s.world, _, .stuck hnone, .stuck, hleads⟩
  · have hsome : it.run s.file source told.world = some (result, it.leftBy scene, scene.world) := by
      rw [hrun, hfinish]
      rfl
    obtain ⟨hleft, -⟩ := leaves_run htold.guarded (h.still.pending hi) hsome
    rw [hleft] at hsome
    refine ⟨_, _, s', .ended hsome, ?_, hleads⟩
    have hstarted : started = s.after told.world [.run n i] := rfl
    rw [hended result scene hfinish, hstarted, after_after]
    exact .ended

/-- Each package is probed in turn; what the probes leave is seen by those that follow. -/
theorem missing_eq (hi : i < s.cells.length) (hp : (s.cell i).interpreter.pending = [])
    {K : Address → Prop} (hg : Guarded K s.world.store) (roots : List String) :
    ∃ result w deeds, Searches (s.cell i).interpreter n roots s.world result w deeds ∧
      Guarded K w.store ∧
      Packages.missing (environment n i) roots s = (result, s.after w deeds) := by
  induction roots generalizing s with
  | nil => exact ⟨.ok [], s.world, [], .done, hg, by simp [Packages.missing, after]⟩
  | cons root rest ih =>
    let it := (s.cell i).interpreter
    have hnone : it.pending = [] := hp
    obtain ⟨hsame, e, -, hleaves⟩ := leaves_probing root hg hnone
    obtain ⟨hpending, -⟩ := leaves_probe root (s := s.scene i) hg (congrArg some hp)
    rcases hprobe : probe root (s.scene i) with ⟨answer, scene⟩
    rw [hprobe] at hpending
    have hit : it.probe root s.world = (answer, it, scene.world) := by
      have hfst : (it.probe root s.world).1 = answer := congrArg Prod.fst hprobe
      have hsnd : (it.probe root s.world).2.2 = scene.world :=
        congrArg (fun x => x.2.world) hprobe
      exact Prod.ext hfst (Prod.ext hsame hsnd)
    rw [hit] at hleaves
    rw [Packages.missing, environment_probe, hprobe, leave_eq hi hp hpending]
    rcases answer with fault | answer
    · exact ⟨.error fault, scene.world, _, .abandoned hit, hleaves.guarded, rfl⟩
    · have hnoted : Guarded K (scene.world.noting [Packages.probeEntry root answer]).store := hleaves.guarded
      obtain ⟨result, w, deeds, hs, hw, heq⟩ :=
        @ih (s.after (scene.world.noting [Packages.probeEntry root answer])
          [.probe n root (some answer)]) hi hp hnoted
      refine ⟨_, w, _, .probed hit hs, hw, ?_⟩
      have hnext : (environment n i).note (Packages.probeEntry root answer)
          ({ s with world := scene.world }.did (.probe n root (some answer))) =
          s.after (scene.world.noting [Packages.probeEntry root answer])
            [.probe n root (some answer)] := rfl
      dsimp only [Except.toOption]
      rw [hnext, heq, after_after]
      rcases result with _ | names <;> rfl

/-- The installer takes its turns. -/
theorem leads_install (h : OnTurn n chunk s) (missing : List String) (turns : Nat) :
    ∃ stage, Leads (s.install n i missing turns) ((s.setJob n stage).install n i missing 0) := by
  induction turns generalizing s with
  | zero =>
    obtain ⟨stage, hjob⟩ := h.job
    exact ⟨stage, by rw [setJob_self hjob]; exact .refl⟩
  | succ turns ih =>
    let waiting := s.setJob n (.installing i missing turns)
    have hstage : waiting.stage? n = some (.installing i missing turns) := h.stage?_setJob _
    have hgo : waiting.fire (.job n) = waiting.install n i missing turns := by
      simp only [fire, continueJob, hstage]
    have hfirst := advance_wake (s := waiting) h.still.halted h.still.ready (.job n)
    obtain ⟨stage, hrest⟩ := ih (h.setJob (.installing i missing turns))
    refine ⟨stage, .head (hgo ▸ hfirst) ?_⟩
    rwa [setJob_setJob] at hrest

theorem Stops.of_after {w₀ : World} {before deeds : List Deed}
    {outcome : Option (Except Fault Value)} (h : Stops n i (s.after w₀ before) w deeds outcome s') :
    Stops n i s w (before ++ deeds) outcome s' := by
  cases h with
  | ended =>
    rw [after_after]
    exact .ended
  | stuck =>
    rw [after_after]
    exact .stuck

theorem Stops.of_setJob {stage : Stage} {deeds : List Deed} {outcome : Option (Except Fault Value)}
    (h : Stops n i (s.setJob n stage) w deeds outcome s') : Stops n i s w deeds outcome s' := by
  cases h with
  | ended =>
    rw [endJob_setJob]
    exact .ended
  | @stuck pending w' =>
    have hstuck : (busy i pending w' ((s.setJob n stage).after w deeds)).setJob n .stuck =
        (busy i pending w' (s.after w deeds)).setJob n .stuck :=
      setJob_setJob n .stuck stage (busy i pending w' (s.after w deeds))
    rw [hstuck]
    exact .stuck

/-- A session in which packages are looked for. -/
def seeking (s : Session) : Session :=
  { s with resolving := { held := true } }

theorem releaseResolving_seeking (h : s.resolving = {}) (w : World) (deeds : List Deed) :
    ((seeking s).after w deeds).releaseResolving n = s.after w (deeds ++ [.searched n]) := by
  obtain ⟨settings, world, cells, crossings, constructions, attempts, jobs, current, construction,
    bridge, resolving, ready, halted, before⟩ := s
  subst h
  simp [releaseResolving, seeking, after, did, wakeAll, Lock.release]

/-- The search for packages is over with the answer of the installer. -/
theorem install_zero (hfree : s.resolving = {}) (missing : List String) (w : World)
    (before : List Deed) :
    ((seeking s).after w before).install n i missing 0 =
      match w.install missing with
      | (none, w') =>
        (s.after w' (before ++ [.installed n missing true, .searched n])).queueChunk n i
      | (some fault, w') =>
        (s.after w' (before ++ [.installed n missing false, .searched n])).endJob n
          (.error (Packages.installFault missing fault)) := by
  have hover (w' : World) (success : Bool) :
      ({ (seeking s).after w before with world := w' }.did
        (.installed n missing success)).releaseResolving n =
        s.after w' (before ++ [.installed n missing success, .searched n]) := by
    have hdone := releaseResolving_seeking (n := n) hfree w'
      (before ++ [.installed n missing success])
    rw [List.append_assoc, List.singleton_append] at hdone
    rw [← hdone]
    simp only [after, did, List.append_assoc]
  simp only [install]
  change (match w.install missing with | (none, w') => _ | (some fault, w') => _) = _
  rcases w.install missing with ⟨_ | fault, w'⟩ <;> simp only [hover]

/-- Packages are asked for; if the installer provides them the code of the chunk is run. -/
theorem leads_requestInstall (h : OnTurn n chunk s) (hfree : s.resolving = {})
    (hi : i < s.cells.length) {missing : List String} (hmissing : missing ≠ []) {w : World}
    (hw : Guarded s.IsTop w.store) {deeds : List Deed} {w₀ : World}
    (hs : Searches (s.cell i).interpreter n (s.scanOf n).roots w₀ (.ok missing) w deeds)
    (turns : Nat) :
    ∃ outcome w' more s',
      Finishes (s.cell i).interpreter s.file n i (s.scanOf n) w₀ outcome w' more ∧
      Stops n i s w' more outcome s' ∧
      Leads (((seeking s).after w (.search n :: deeds ++ [.request n missing])).install n i missing
        turns) s' := by
  have hturn : OnTurn n chunk (seeking s) :=
    ⟨⟨h.still.halted, h.still.ready, h.still.cells, h.still.guarded, h.still.host⟩, h.job⟩
  obtain ⟨stage, hinstall⟩ := leads_install (i := i) (hturn.after hw _) missing turns
  have hleaves : World.Leaves s.IsTop none [] w (w.install missing).2 := leaves_install missing hw
  have hseeking : ((seeking s).after w (.search n :: deeds ++ [.request n missing])).setJob n stage =
      (seeking (s.setJob n stage)).after w (.search n :: deeds ++ [.request n missing]) := rfl
  rw [hseeking, install_zero (s := s.setJob n stage) hfree] at hinstall
  simp only [List.append_assoc, List.cons_append, List.nil_append] at hinstall ⊢
  rcases hresult : w.install missing with ⟨_ | fault, w'⟩ <;> rw [hresult] at hinstall hleaves
  · have hafter : OnTurn n chunk ((s.setJob n stage).after w' (.search n :: (deeds ++
        [.request n missing, .installed n missing true, .searched n]))) :=
      (h.setJob stage).after hleaves.guarded _
    obtain ⟨outcome, w'', s', he, hstops, hleads⟩ := leads_queueChunk hafter hi
    have hscan : ((s.setJob n stage).after w' (.search n :: (deeds ++
        [.request n missing, .installed n missing true, .searched n]))).scanOf n = s.scanOf n :=
      scanOf_setJob n stage s
    rw [hscan] at he
    exact ⟨outcome, w'', _, s', .resolved (.installed hmissing hs hresult) he,
      hstops.of_after.of_setJob, hinstall.trans hleads⟩
  · refine ⟨_, w', _, _, .unresolved (.refused hmissing hs hresult), .ended, ?_⟩
    dsimp only at hinstall
    rwa [endJob_setJob] at hinstall

theorem findPackages_eq {result : Except Fault (List String)} {s₁ : Session} :
    Packages.missing (environment n i) (s.scanOf n).roots (s.did (.search n)) = (result, s₁) →
    s.findPackages n i =
      match result with
      | .error fault => (s₁.releaseResolving n).endJob n (.error fault)
      | .ok [] => (s₁.releaseResolving n).queueChunk n i
      | .ok missing => (s₁.did (.request n missing)).install n i missing (installTurns s₁.world) := by
  intro h
  unfold findPackages
  rw [h]
  rcases result with fault | _ | ⟨first, rest⟩ <;> rfl

/-- Packages are looked for when nobody else does that; then the code of the chunk is run. -/
theorem leads_queueResolving (h : OnTurn n chunk s) (hfree : s.resolving = {})
    (hi : i < s.cells.length) :
    ∃ outcome w deeds s',
      Finishes (s.cell i).interpreter s.file n i (s.scanOf n) s.world outcome w deeds ∧
      Stops n i s w deeds outcome s' ∧ Leads (s.queueResolving n i) s' := by
  by_cases hroots : (s.scanOf n).roots = []
  · obtain ⟨outcome, w, s', he, hstops, hleads⟩ := leads_queueChunk h hi
    refine ⟨outcome, w, _, s', .resolved (.nothing hroots) he, hstops, ?_⟩
    simpa only [queueResolving, hroots, List.isEmpty_nil, if_true] using hleads
  have hseek : s.queueResolving n i = (seeking s).findPackages n i := by
    have hempty : (s.scanOf n).roots.isEmpty = false := by simpa using hroots
    simp only [queueResolving, hempty, hfree]
    rfl
  let found := (seeking s).did (.search n)
  obtain ⟨result, w, deeds, hs, hw, hmissing⟩ :=
    missing_eq (s := found) (n := n) hi (h.still.pending hi) h.still.guarded (s.scanOf n).roots
  have hfound : found.after w deeds = (seeking s).after w (.search n :: deeds) :=
    after_after s.world w [.search n] deeds (seeking s)
  rw [hfound] at hmissing
  rw [hseek, findPackages_eq (s := seeking s) hmissing]
  rcases result with fault | _ | ⟨first, rest⟩ <;> dsimp only
  · rw [releaseResolving_seeking hfree]
    exact ⟨_, w, _, _, .unresolved (.abandoned hs), .ended, .refl⟩
  · rw [releaseResolving_seeking hfree]
    have hafter : OnTurn n chunk (s.after w (.search n :: deeds ++ [.searched n])) := h.after hw _
    obtain ⟨outcome, w', s', he, hstops, hleads⟩ := leads_queueChunk hafter hi
    exact ⟨outcome, w', _, s', .resolved (.found hroots hs) he, hstops.of_after, hleads⟩
  · have hasks := leads_requestInstall h hfree hi (List.cons_ne_nil first rest) hw hs
      (installTurns w)
    have hdid : ((seeking s).after w (.search n :: deeds)).did (.request n (first :: rest)) =
        (seeking s).after w (.search n :: deeds ++ [.request n (first :: rest)]) :=
      after_after w w _ _ (seeking s)
    rw [hdid]
    exact hasks

end Chunkwise.Session
