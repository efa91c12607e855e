import Chunkwise.Proofs.Session.Alone.Code
import Chunkwise.Proofs.Session.Alone.Traces

/-!
An attempt alone, from its first script to its end. The attempt takes turns where the host, the
network or the adapter source let others go on, and nobody else does.
-/
namespace Chunkwise.Session
open Chunkwise.Execution Chunkwise.World Store

variable {s s' : Session} {n a i : Nat} {w : World} {pending : List Char}

/-! An attempt's record. -/

theorem setAttempt_setAttempt (a : Nat) (stage stage' : Loading) (s : Session) :
    (s.setAttempt a stage').setAttempt a stage = s.setAttempt a stage := by
  simp only [setAttempt, List.modify_modify_eq]
  rfl

theorem setAttempt_self {made : Attempt} (h : s.attempts[a]? = some made) :
    s.setAttempt a made.stage = s := by
  have hattempts : s.attempts.modify a (fun m => { m with stage := made.stage }) = s.attempts := by
    refine modify_of_self fun m hm => ?_
    obtain rfl := Option.some.inj (h.symm.trans hm)
    rfl
  simp only [setAttempt, hattempts]

/-- An attempt of the present bridge is under way for an interpreter, and a job waits for it. -/
structure Strives (n a i : Nat) (s : Session) : Prop where
  still : Still s
  attempt : ∃ stage, s.attempts[a]? = some ⟨s.bridge, i, stage, [n]⟩
  inside : i < s.cells.length

theorem Strives.after (h : Strives n a i s) (hw : Guarded s.IsTop w.store) (deeds : List Deed) :
    Strives n a i (s.after w deeds) :=
  ⟨h.still.after hw deeds, h.attempt, h.inside⟩

theorem Strives.setAttempt (h : Strives n a i s) (stage : Loading) :
    Strives n a i (s.setAttempt a stage) := by
  obtain ⟨stage₀, hattempt⟩ := h.attempt
  refine ⟨⟨h.still.halted, h.still.ready, h.still.cells, h.still.guarded, h.still.host⟩,
    ⟨stage, ?_⟩, h.inside⟩
  simp [Session.setAttempt, hattempt]

theorem Strives.loading?_setAttempt (h : Strives n a i s) (stage : Loading) :
    (s.setAttempt a stage).loading? a = some stage := by
  obtain ⟨stage₀, hattempt⟩ := h.attempt
  simp [loading?, Session.setAttempt, hattempt]

theorem Strives.interpreterOf (h : Strives n a i s) : s.interpreterOf a = i := by
  obtain ⟨stage, hattempt⟩ := h.attempt
  simp [Session.interpreterOf, hattempt]

theorem Strives.bridgeOf (h : Strives n a i s) : s.bridgeOf a = s.bridge := by
  obtain ⟨stage, hattempt⟩ := h.attempt
  simp [Session.bridgeOf, hattempt]

/-- The attempt takes its next turn. -/
theorem Strives.leads_turn (h : Strives n a i s) (stage : Loading) :
    Leads ((s.setAttempt a stage).wake (.attempt a)) ((s.setAttempt a stage).continueAttempt a) :=
  .head (advance_wake (s := s.setAttempt a stage) h.still.halted h.still.ready _) .refl

theorem toils_nil (a : Nat) : Toils a none [] :=
  ⟨by simp, by simp⟩

/-- Other steps may come before. -/
theorem Toils.append {adapter : Option String} {before deeds : List Deed} (hb : Toils a none before)
    (h : Toils a adapter deeds) : Toils a adapter (before ++ deeds) where
  mine deed hdeed := (List.mem_append.1 hdeed).elim (hb.mine deed) (h.mine deed)
  adapts := by
    have hnot : .adapt a ∉ before := fun hmem => by simpa using hb.adapts.1 hmem
    simpa [hnot] using h.adapts

/-- An attempt learns how its last step went. -/
theorem Toils.settled {adapter : Option String} {deeds : List Deed} (h : Toils a adapter deeds)
    (success : Bool) : Toils a adapter (deeds ++ [.settled a success]) where
  mine deed hdeed := by
    obtain hdeed | rfl := (List.mem_append.1 hdeed).imp_right List.mem_singleton.1
    · exact h.mine deed hdeed
    · rfl
  adapts := by simpa using h.adapts

/-! Its end. -/

/-- A failure is noted, if it can be shown. -/
theorem failAttempt_eq (a : Nat) (fault : Fault) (s : Session) :
    ∃ entries, s.failAttempt a fault =
      ((s.did (.settled a false)).mapWorld (noting entries)).endAttempt a (some fault) := by
  have hquiet (s : Session) : s.mapWorld (noting []) = s := by simp [mapWorld, noting]
  unfold failAttempt
  rcases fault.render with _ | shown
  · exact ⟨[], by rw [hquiet]⟩
  · exact ⟨[⟨.error, .bridge, s!"Error setting up {s.heavy} bridge: {shown}"⟩], rfl⟩

theorem adapterNote_eq (i : Nat) (s : Session) :
    ∃ entries, s.adapterNote i = s.mapWorld (noting entries) := by
  unfold adapterNote
  dsimp only
  split <;> exact ⟨_, rfl⟩

theorem endAttempt_setAttempt (a : Nat) (stage : Loading) (fault : Option Fault) (s : Session) :
    (s.setAttempt a stage).endAttempt a fault = s.endAttempt a fault := by
  have hagain : (s.attempts.modify a fun made => { made with stage := stage }).modify a
      (fun made => { made with stage := .ended fault }) =
      s.attempts.modify a fun made => { made with stage := .ended fault } := by
    rw [List.modify_modify_eq]
    rfl
  have hread {β : Type} (f : Attempt → β) (hf : ∀ made : Attempt, f { made with stage := stage } =
      f made) : (s.attempts.modify a fun made => { made with stage := stage })[a]?.map f =
        s.attempts[a]?.map f := by
    rw [List.getElem?_modify_eq]
    rcases s.attempts[a]? with _ | made
    · rfl
    · exact congrArg some (hf made)
  have hinterpreter := hread (·.interpreter) fun _ => rfl
  have hbridge := hread (·.bridge) fun _ => rfl
  have hwatchers := hread (·.watchers) fun _ => rfl
  cases fault <;>
    simp only [endAttempt, setAttempt, interpreterOf, bridgeOf, did, mapCrossing, wakeAll, hagain,
      hinterpreter, hbridge, hwatchers, Option.isNone_none, Option.isNone_some, if_true, if_false,
      Bool.false_eq_true]

/-- The session that an attempt alone leaves when it has come to its end, or is stuck in the adapter
source. -/
inductive Lands (a i : Nat) (s : Session) (w : World) (deeds : List Deed) :
    Option (Option Fault) → Session → Prop
  | ended {fault : Option Fault} {entries : List Entry} :
      Lands a i s w deeds (some fault) ((s.after (w.noting entries) deeds).endAttempt a fault)
  | stuck {pending : List Char} {w' : World} :
      Lands a i s w deeds none ((busy i pending w' (s.after w deeds)).setAttempt a .stuck)

theorem Lands.of_after {w₀ : World} {before deeds : List Deed} {outcome : Option (Option Fault)}
    (h : Lands a i (s.after w₀ before) w deeds outcome s') :
    Lands a i s w (before ++ deeds) outcome s' := by
  cases h with
  | ended =>
    rw [after_after]
    exact .ended
  | stuck =>
    rw [after_after]
    exact .stuck

theorem Lands.of_setAttempt {stage : Loading} {deeds : List Deed} {outcome : Option (Option Fault)}
    (h : Lands a i (s.setAttempt a stage) w deeds outcome s') : Lands a i s w deeds outcome s' := by
  cases h with
  | @ended fault entries =>
    have hend : ((s.setAttempt a stage).after (w.noting entries) deeds).endAttempt a fault =
        (s.after (w.noting entries) deeds).endAttempt a fault :=
      endAttempt_setAttempt a stage fault (s.after (w.noting entries) deeds)
    rw [hend]
    exact .ended
  | @stuck pending w' =>
    have hstuck : (busy i pending w' ((s.setAttempt a stage).after w deeds)).setAttempt a .stuck =
        (busy i pending w' (s.after w deeds)).setAttempt a .stuck :=
      setAttempt_setAttempt a .stuck stage (busy i pending w' (s.after w deeds))
    rw [hstuck]
    exact .stuck

/-- An attempt that fails has come to its end. -/
theorem lands_failAttempt (fault : Fault) (w : World) (deeds : List Deed) (s : Session) :
    Lands a i s w (deeds ++ [.settled a false]) (some (some fault))
      ((s.after w deeds).failAttempt a fault) := by
  obtain ⟨entries, hfail⟩ := failAttempt_eq a fault (s.after w deeds)
  rw [hfail, after_did]
  exact .ended

/-! The adapter source. -/

theorem follows_adapter (h : Strives n a i s) :
    Follows i (.attempt a) (fun resume s => s.setAttempt a (.running resume))
      (fun r s => s.followAdapter a i r) s where
  still resume := (h.setAttempt _).still
  again resume resume' := setAttempt_setAttempt a (.running resume') (.running resume) s
  pause scene resume left pending w hp := by
    simp only [followAdapter, busy_leave hp]
    rfl
  goesOn resume scene left hp := by
    let waiting := s.setAttempt a (.running resume)
    have hscene : (busy i left scene.world waiting).scene i = scene := by
      rw [busy_scene (s := waiting) h.inside, ← hp]
    have hstage : (busy i left scene.world waiting).loading? a = some (.running resume) :=
      h.loading?_setAttempt _
    have hinterpreter : (busy i left scene.world waiting).interpreterOf a = i :=
      (h.setAttempt (.running resume)).interpreterOf
    simp only [fire, continueAttempt]
    rw [hstage]
    dsimp only
    rw [hinterpreter, hscene]

/-- The end of the adapter source is the end of the attempt. -/
theorem lands_followAdapter (h : Strives n a i s) {scene : Scene} (hp : scene.pending = some [])
    (result : Except Fault Value) :
    ∃ success, Lands a i s scene.world [.settled a success] (some (adapted result))
      ((busy i pending w s).followAdapter a i (.done result scene)) := by
  have hleave : (busy i [] scene.world s).releaseRun i = s.after scene.world [] := by
    rw [busy_release h.still h.inside, after_nil]
  simp only [followAdapter, busy_leave hp, hleave]
  cases result with
  | ok v =>
    obtain ⟨entries, hnote⟩ := adapterNote_eq i (s.after scene.world [.settled a true])
    dsimp only
    rw [after_did, List.nil_append, hnote]
    exact ⟨true, .ended⟩
  | error fault => exact ⟨false, lands_failAttempt (adapterFault fault) scene.world [] s⟩

/-- The adapter source is run when no other code is running. -/
theorem leads_queueAdapter (h : Strives n a i s) (source : String) :
    ∃ outcome w deeds s', Adapts s.settings (s.cell i).interpreter source s.world outcome w ∧
      Toils a (some source) deeds ∧ Lands a i s w deeds outcome s' ∧
      Leads (s.queueAdapter a source) s' := by
  let it := (s.cell i).interpreter
  let started := s.did (.adapt a)
  let r := runChunk it.globals s.file source (it.scene s.world)
  have hstrives : Strives n a i started := h.after h.still.guarded [.adapt a]
  have hscene : started.scene i = { pending := some [], world := s.world } :=
    hstrives.still.scene h.inside
  have hpending : (it.scene s.world).pending = some [] := congrArg Scene.pending hscene
  have hstart : s.queueAdapter a source = (busy i [] s.world started).followAdapter a i r := by
    have hbegin : s.queueAdapter a source = (s.mapLock i Lock.take).runAdapter a source := by
      have hfree : (s.cell i).lock.isFree := by rw [h.still.lock h.inside]; rfl
      simp only [queueAdapter, h.interpreterOf, if_pos hfree]
    have hinterpreter : (busy i [] s.world s).interpreterOf a = i := h.interpreterOf
    rw [hbegin, busy_take h.still, runAdapter, hinterpreter]
    change (busy i [] s.world started).followAdapter a i
      (runChunk ((busy i [] s.world started).cell i).interpreter.globals s.file source
        ((busy i [] s.world started).scene i)) = _
    rw [busy_globals (s := started) i, busy_scene (s := started) h.inside, ← hscene]
    rfl
  have hrun : it.run s.file source s.world = leaving it r.finish := rfl
  have hall : r.All (Spoken s.IsTop it.globals (.source source) (it.scene s.world)) _ :=
    all_runChunk s.file source h.still.guarded hpending
  have hfollows (s₁ : Session)
      (hs₁ : Holding (fun resume s => s.setAttempt a (.running resume)) started s₁) :
      Follows i (.attempt a) (fun resume s => s.setAttempt a (.running resume))
        (fun r s => s.followAdapter a i r) s₁ := by
    rcases hs₁ with rfl | ⟨resume, rfl⟩
    · exact follows_adapter hstrives
    · exact follows_adapter (hstrives.setAttempt _)
  obtain ⟨pending, w, s₁, hs₁, hleads⟩ := leads_follow hall
    (fun _ h => by obtain ⟨_, _, _, hp, _⟩ := h.heard; simp [hp]) hfollows [] s.world
  have hstrives₁ : Strives n a i s₁ := by
    rcases hs₁ with rfl | ⟨resume, rfl⟩
    · exact hstrives
    · exact hstrives.setAttempt _
  have hlands {w' : World} {deeds : List Deed} {outcome : Option (Option Fault)} {s' : Session}
      (hl : Lands a i s₁ w' deeds outcome s') : Lands a i s w' (.adapt a :: deeds) outcome s' := by
    have hstarted : Lands a i (s.after s.world [.adapt a]) w' deeds outcome s' := by
      rcases hs₁ with rfl | ⟨resume, rfl⟩
      · exact hl
      · exact hl.of_setAttempt
    exact hstarted.of_after
  have htoils : Toils a (some source) [.adapt a] := ⟨by simp [Deed.attempt?], by simp⟩
  rw [hstart]
  rcases hfinish : r.finish with _ | ⟨result, scene⟩ <;> simp only [finished, hfinish] at hleads
  · have hnone : it.run s.file source s.world = none := by rw [hrun, hfinish]; rfl
    have hstuck : Lands a i s₁ s.world [] none ((busy i pending w s₁).setAttempt a .stuck) := by
      have hsame : busy i pending w s₁ = busy i pending w (s₁.after s.world []) := by
        rw [after_nil]
        rfl
      rw [hsame]
      exact .stuck
    exact ⟨none, s.world, _, _, .stuck hnone, htoils, hlands hstuck, hleads⟩
  · have hsome : it.run s.file source s.world = some (result, it.leftBy scene, scene.world) := by
      rw [hrun, hfinish]
      rfl
    obtain ⟨hleft, -⟩ := leaves_run h.still.guarded (h.still.pending h.inside) hsome
    rw [hleft] at hsome
    have hpending := (hall.finish hfinish).2
    obtain ⟨success, hended⟩ := lands_followAdapter hstrives₁ hpending result
    exact ⟨_, scene.world, _, _, .ended hsome, htoils.settled success, hlands hended, hleads⟩

/-- The fetch of the adapter source takes its turns. -/
theorem leads_fetchAdapter (h : Strives n a i s) (turns : Nat) :
    ∃ stage, Leads (s.fetchAdapter a turns) ((s.setAttempt a stage).fetchAdapter a 0) := by
  induction turns generalizing s with
  | zero =>
    obtain ⟨stage, hattempt⟩ := h.attempt
    exact ⟨stage, by rw [setAttempt_self hattempt]; exact .refl⟩
  | succ turns ih =>
    have hgo : (s.setAttempt a (.fetching turns)).continueAttempt a =
        (s.setAttempt a (.fetching turns)).fetchAdapter a turns := by
      simp only [continueAttempt, h.loading?_setAttempt]
    obtain ⟨stage, hrest⟩ := ih (h.setAttempt (.fetching turns))
    rw [setAttempt_setAttempt] at hrest
    exact ⟨stage, (hgo ▸ h.leads_turn (.fetching turns)).trans hrest⟩

theorem fetchAdapter_zero (w : World) (before : List Deed) (s : Session) :
    (s.after w before).fetchAdapter a 0 =
      match w.fetch (s.settings.get .adapterUrl) (s.settings.get .httpTimeout) false with
      | (.ok source, w) => (s.after w (before ++ [.settled a true])).queueAdapter a source
      | (.error fault, w) =>
        (s.after w before).failAttempt a (fetchFault (s.settings.get .adapterUrl) fault) := by
  simp only [← after_did]
  rfl

/-! The library. -/

theorem bindName_eq (field : Settings.Field) (v : Value) (s : Session) :
    s.bindName i field v =
      ((bindSetting s.settings (s.cell i).interpreter field v s.world).1,
        s.after (bindSetting s.settings (s.cell i).interpreter field v s.world).2 []) := by
  have hquiet : s.after s.world [] = s := after_nil s.world s
  unfold bindName bindSetting
  split
  next name hkey =>
    simp only [hkey, after_nil]
    rfl
  next hkey =>
    split
    next hhash => simp only [hhash, hquiet]
    next hhash => simp only [hhash, hquiet]

theorem bindName_after (field : Settings.Field) (v : Value) (w : World) (deeds : List Deed)
    (s : Session) : (s.after w deeds).bindName i field v =
      ((bindSetting s.settings (s.cell i).interpreter field v w).1,
        s.after (bindSetting s.settings (s.cell i).interpreter field v w).2 deeds) := by
  rw [bindName_eq, after_after, List.append_nil]
  rfl

/-- The library is bound in some steps, or one of them has failed. -/
theorem bindLibrary_eq (h : Strives n a i s) (library : Value) :
    ∃ deeds, Toils a none deeds ∧ s.bindLibrary a library =
      match bindHeavy s.settings (s.cell i).interpreter library s.world with
      | (some fault, w) => (s.after w deeds).failAttempt a fault
      | (none, w) => (s.after w deeds).fetchAdapter a w.web.turns := by
  have hbegin : s.did (.bind a .rawBinding) = s.after s.world [.bind a .rawBinding] := rfl
  have hworld (w : World) (deeds : List Deed) : (s.after w deeds).world = w := rfl
  have hchange (w w' : World) (deeds : List Deed) :
      { s.after w deeds with world := w' } = s.after w' deeds := rfl
  unfold bindLibrary bindHeavy
  simp only [h.interpreterOf, hbegin, bindName_after]
  rcases bindSetting s.settings (s.cell i).interpreter .rawBinding library s.world with ⟨_ | fault, w⟩
  · simp only [after_did, hworld, hchange]
    rcases w.act (Bridge.makeAdapters library) with ⟨fault | adapters, w⟩
    · exact ⟨_, ⟨by simp [Deed.attempt?], by simp⟩, rfl⟩
    · simp only [bindName_after]
      rcases bindSetting s.settings (s.cell i).interpreter .utilsBinding adapters w with
        ⟨_ | fault, w⟩
      · simp only [after_did]
        refine ⟨_, ?_, rfl⟩
        exact ⟨by simp [Deed.attempt?], by simp⟩
      · exact ⟨_, ⟨by simp [Deed.attempt?], by simp⟩, rfl⟩
  · exact ⟨_, ⟨by simp [Deed.attempt?], by simp⟩, rfl⟩

/-- The library is bound, and the adapter source is fetched and run. -/
theorem leads_bindLibrary (h : Strives n a i s) {library : Value} {w₀ : World}
    (hfound : findHeavy s.settings w₀ = (.ok library, s.world)) :
    ∃ outcome w adapter deeds s', Crosses s.settings (s.cell i).interpreter w₀ outcome w adapter ∧
      Toils a adapter deeds ∧ Lands a i s w deeds outcome s' ∧
      Leads (s.bindLibrary a library) s' := by
  have hleaves := leaves_bindHeavy s.settings (s.cell i).interpreter library h.still.guarded
  obtain ⟨bound, htoils, hgoes⟩ := bindLibrary_eq h library
  rw [hgoes]
  rcases hbind : bindHeavy s.settings (s.cell i).interpreter library s.world with ⟨_ | fault, w₁⟩ <;>
    rw [hbind] at hleaves <;> dsimp only
  · have hbound : Strives n a i (s.after w₁ bound) := h.after hleaves.guarded _
    obtain ⟨stage, hturns⟩ := leads_fetchAdapter hbound w₁.web.turns
    have hsame : (s.after w₁ bound).setAttempt a stage =
        (s.setAttempt a stage).after w₁ bound := rfl
    have hsettings : (s.setAttempt a stage).settings = s.settings := rfl
    rw [hsame, fetchAdapter_zero, hsettings] at hturns
    rcases hfetch : w₁.fetch (s.settings.get .adapterUrl) (s.settings.get .httpTimeout) false with
      ⟨fault | source, w₂⟩
    all_goals
      have hfetches : Fetches s.settings (s.cell i).interpreter w₀ library _ w₂ :=
        ⟨congrArg Prod.fst hfound, by rw [hfound, hbind], by rw [hfound, hbind]; exact hfetch⟩
      have hw₂ : Leaves s.IsTop none [] w₁
          (w₁.fetch (s.settings.get .adapterUrl) (s.settings.get .httpTimeout) false).2 :=
        leaves_fetch hleaves.guarded _ _ _
      rw [hfetch] at hw₂
      rw [hfetch] at hturns
    · exact ⟨_, w₂, _, _, _, .unfetched hfetches, htoils.settled false,
        (lands_failAttempt _ _ _ _).of_setAttempt, hturns⟩
    · obtain ⟨outcome, w₃, deeds, s', hadapts, hmore, hlands, hleads⟩ := leads_queueAdapter
        ((h.setAttempt stage).after hw₂.guarded (bound ++ [.settled a true])) source
      exact ⟨outcome, w₃, _, _, s', .fetched hfetches hadapts, (htoils.settled true).append hmore,
        hlands.of_after.of_setAttempt, hturns.trans hleads⟩
  · exact ⟨_, w₁, _, _, _, .unbound hfound hbind, htoils.settled false, lands_failAttempt _ _ _ _,
      .refl⟩

theorem afterScripts_eq (a : Nat) (s : Session) :
    s.afterScripts a =
      match seekHeavy s.settings s.world with
      | .error fault => (s.did (.seek a s.library?)).failAttempt a fault
      | .ok library =>
        ((s.did (.seek a s.library?)).did (.settled a true)).bindLibrary a library := by
  have hsettings : (s.did (.seek a s.library?)).settings = s.settings := rfl
  have hlibrary : (s.did (.seek a s.library?)).library? = s.library? := rfl
  have hheavy : (s.did (.seek a s.library?)).heavy = s.settings.text .heavyDependency := rfl
  unfold afterScripts seekHeavy heavyValue? heavyName?
  dsimp only
  rw [hsettings, hlibrary, hheavy]
  generalize s.did (.seek a s.library?) = sought
  unfold library? name?
  rcases (s.settings.get .heavyDependency).hashed with fault | hashed
  · rfl
  · dsimp only
    rcases Option.bind _ s.world.hostNames.get? with _ | library
    · rfl
    · cases library <;> rfl

/-- What follows when the scripts have been loaded, or one of them has failed. -/
def settleScripts (a : Nat) : Option Fault × Session → Session
  | (none, s) => s.afterScripts a
  | (some fault, s) => s.failAttempt a fault

theorem leads_settleScripts (h : Strives n a i s) {fault : Option Fault} {w₀ : World}
    (hload : loadHeavy s.settings w₀ = (fault, s.world)) :
    ∃ outcome w adapter deeds s', Crosses s.settings (s.cell i).interpreter w₀ outcome w adapter ∧
      Toils a adapter deeds ∧ Lands a i s w deeds outcome s' ∧
      Leads (settleScripts a (fault, s)) s' := by
  have hsame : s.after s.world [] = s := after_nil s.world s
  have hsought : s.did (.seek a s.library?) = s.after s.world [.seek a s.library?] := rfl
  have htoils : Toils a none [.seek a s.library?] := ⟨by simp [Deed.attempt?], by simp⟩
  have hfail {before : List Deed} (hb : Toils a none before) (fault : Fault)
      (hf : findHeavy s.settings w₀ = (.error fault, s.world)) :
      ∃ outcome w adapter deeds s', Crosses s.settings (s.cell i).interpreter w₀ outcome w adapter ∧
        Toils a adapter deeds ∧ Lands a i s w deeds outcome s' ∧
        Leads ((s.after s.world before).failAttempt a fault) s' :=
    ⟨_, _, _, _, _, .lost hf, hb.settled false, lands_failAttempt _ _ _ _, .refl⟩
  cases fault with
  | some fault =>
    have hlost := hfail (toils_nil a) fault (by rw [findHeavy, hload])
    rwa [hsame] at hlost
  | none =>
    have hfind : findHeavy s.settings w₀ = (seekHeavy s.settings s.world, s.world) := by
      rw [findHeavy, hload]
    simp only [settleScripts, afterScripts_eq]
    rcases hseek : seekHeavy s.settings s.world with fault | library <;> rw [hseek] at hfind
    · exact hfail htoils fault hfind
    · obtain ⟨outcome, w, adapter, deeds, s', hcrosses, hmore, hlands, hleads⟩ :=
        leads_bindLibrary (h.after h.still.guarded [.seek a s.library?, .settled a true]) hfind
      refine ⟨outcome, w, adapter, _, s', hcrosses, (htoils.settled true).append hmore,
        hlands.of_after, ?_⟩
      rwa [hsought, after_did]

/-! Scripts. -/

theorem append_lookUpScript (url : Datum) (s : Session) :
    Bridge.append lookUpScript url s =
      ((Bridge.append World.loadScript url s.world).1,
        s.after (Bridge.append World.loadScript url s.world).2 []) := by
  rw [after_nil]
  unfold Bridge.append lookUpScript
  rcases s.world.loadScript url with ⟨_ | fault, w⟩ <;> rfl

/-- A script that is appended takes its turns. -/
theorem leads_appending (h : Strives n a i s) (url : Datum) (rest : List Datum) (turns : Nat) :
    ∃ stage, Leads ((s.setAttempt a (.appending url rest turns)).wake (.attempt a))
      (settleScript a (appendScripts a rest)
        (Bridge.append lookUpScript url (s.setAttempt a stage))) := by
  induction turns generalizing s with
  | zero =>
    refine ⟨.appending url rest 0, (h.leads_turn (.appending url rest 0)).trans ?_⟩
    simp only [continueAttempt, h.loading?_setAttempt]
    exact .refl
  | succ turns ih =>
    obtain ⟨stage, hrest⟩ := ih (h.setAttempt (.appending url rest (turns + 1)))
    rw [setAttempt_setAttempt, setAttempt_setAttempt] at hrest
    refine ⟨stage, (h.leads_turn (.appending url rest (turns + 1))).trans ?_⟩
    simp only [continueAttempt, h.loading?_setAttempt, setAttempt_setAttempt]
    exact hrest

theorem appendScripts_cons (a : Nat) (url : Datum) (rest : List Datum) (s : Session) :
    s.appendScripts a (url :: rest) =
      let noted := s.after (Bridge.appendNote url s.world) [.load a url]
      match noted.world.host.turns with
      | turns + 1 => (noted.setAttempt a (.appending url rest turns)).wake (.attempt a)
      | 0 => settleScript a (appendScripts a rest) (Bridge.append lookUpScript url noted) :=
  rfl

/-- The first of the scripts is appended. -/
theorem leads_appendScript (h : Strives n a i s) (url : Datum) (rest : List Datum) :
    ∃ stage, Leads (s.appendScripts a (url :: rest)) (settleScript a (appendScripts a rest)
      ((Bridge.append World.loadScript url (Bridge.appendNote url s.world)).1,
        (s.setAttempt a stage).after
          (Bridge.append World.loadScript url (Bridge.appendNote url s.world)).2
          [.load a url])) := by
  let noted := s.after (Bridge.appendNote url s.world) [.load a url]
  have hnoted : Strives n a i noted :=
    h.after (w := Bridge.appendNote url s.world) h.still.guarded _
  have hturns : ∃ stage, Leads (s.appendScripts a (url :: rest)) (settleScript a
      (appendScripts a rest) (Bridge.append lookUpScript url (noted.setAttempt a stage))) := by
    rw [appendScripts_cons]
    dsimp only
    rcases (s.after (Bridge.appendNote url s.world) [.load a url]).world.host.turns with _ | turns
    · obtain ⟨stage, hattempt⟩ := hnoted.attempt
      exact ⟨stage, by rw [setAttempt_self hattempt]; exact .refl⟩
    · exact leads_appending hnoted url rest turns
  obtain ⟨stage, hleads⟩ := hturns
  rw [append_lookUpScript] at hleads
  have hsame (w : World) : (noted.setAttempt a stage).after w [] =
      (s.setAttempt a stage).after w [.load a url] :=
    after_after _ w [.load a url] [] (s.setAttempt a stage)
  rw [hsame] at hleads
  exact ⟨stage, hleads⟩

theorem loadScripts_cons (url : Datum) (rest : List Datum) (w : World) :
    Bridge.loadScripts .each (url :: rest) w =
      match Bridge.append World.loadScript url (Bridge.appendNote url w) with
      | (none, w) => Bridge.loadScripts .each rest w
      | (some fault, w) => (some fault, w) := by
  have happend : Bridge.append (fun url w => World.loadScript url (Bridge.appendNote url w)) url w =
      Bridge.append World.loadScript url (Bridge.appendNote url w) := rfl
  simp only [Bridge.loadScripts, Bridge.loadBy, Bridge.appendAll, Bridge.loadInOrder, happend]
  rcases Bridge.append World.loadScript url (Bridge.appendNote url w) with ⟨_ | _, w⟩ <;> rfl

/-- Scripts are appended one after another, up to the first that fails. -/
theorem leads_appendScripts (urls : List Datum) (h : Strives n a i s) :
    ∃ deeds stage, Toils a none deeds ∧
      Leads (s.appendScripts a urls) (settleScripts a
        ((Bridge.loadScripts .each urls s.world).1,
          (s.setAttempt a stage).after (Bridge.loadScripts .each urls s.world).2 deeds)) := by
  induction urls generalizing s with
  | nil =>
    obtain ⟨stage, hattempt⟩ := h.attempt
    have hsame : (s.setAttempt a stage).after s.world [] = s := by
      rw [setAttempt_self hattempt, after_nil]
    refine ⟨[], stage, toils_nil a, ?_⟩
    change Leads _ (settleScripts a (none, (s.setAttempt a stage).after s.world []))
    rw [hsame]
    exact .refl
  | cons url rest ih =>
    have hloads : Toils a none [.load a url] := ⟨by simp [Deed.attempt?], by simp⟩
    obtain ⟨stage, hleads⟩ := leads_appendScript h url rest
    have hguarded : Guarded s.IsTop
        (Bridge.append World.loadScript url (Bridge.appendNote url s.world)).2.store := by
      have hnoted : Guarded s.IsTop (Bridge.appendNote url s.world).store := h.still.guarded
      rw [Bridge.append_snd]
      have hload : Leaves s.IsTop none [] (Bridge.appendNote url s.world)
          ((Bridge.appendNote url s.world).loadScript url).2 :=
        leaves_loadScript hnoted h.still.host url
      exact hload.guarded
    rw [loadScripts_cons]
    rcases hload : Bridge.append World.loadScript url (Bridge.appendNote url s.world) with
      ⟨_ | fault, w⟩ <;> rw [hload] at hleads hguarded
    · obtain ⟨deeds, stage', hdeeds, hrest⟩ :=
        ih ((h.setAttempt stage).after hguarded [.load a url, .settled a true])
      refine ⟨[.load a url, .settled a true] ++ deeds, stage', (hloads.settled true).append hdeeds,
        hleads.trans ?_⟩
      have hsame (w' : World) : (((s.setAttempt a stage).after w
          [.load a url, .settled a true]).setAttempt a stage').after w' deeds =
          (s.setAttempt a stage').after w' ([.load a url, .settled a true] ++ deeds) := by
        change (((s.setAttempt a stage).setAttempt a stage').after w
          [.load a url, .settled a true]).after w' deeds = _
        rw [setAttempt_setAttempt, after_after]
      rw [hsame] at hrest
      simp only [settleScript, after_did]
      exact hrest
    · exact ⟨[.load a url], stage, hloads, hleads⟩

theorem Still.running? (h : Still s) : s.running? = none := by
  simp only [Session.running?, List.findIdx?_eq_none_iff]
  intro cell hcell
  rw [(h.cells cell hcell).1]

/-- A script that is imported while nothing runs. -/
theorem importScript_eq (hr : s.running? = none) (url : Datum) :
    importScript url s =
      ((World.importScript (s.settings.get .httpTimeout) url s.world).1,
        s.after (World.importScript (s.settings.get .httpTimeout) url s.world).2 []) := by
  rw [after_nil]
  unfold importScript World.importScript lookUpScript
  split
  · rcases s.world.fetch url (s.settings.get .httpTimeout) true with ⟨fault | source, w⟩
    · rfl
    · have hnone : ({ s with world := w } : Session).running? = none := hr
      simp only [runHostScript, hnone]
  · rfl

theorem loadInOrder_eq (hr : s.running? = none) (urls : List Datum) :
    Bridge.loadInOrder importScript urls s =
      ((Bridge.loadInOrder (World.importScript (s.settings.get .httpTimeout)) urls s.world).1,
        s.after (Bridge.loadInOrder (World.importScript (s.settings.get .httpTimeout)) urls
          s.world).2 []) := by
  induction urls generalizing s with
  | nil => rw [after_nil]; rfl
  | cons url rest ih =>
    simp only [Bridge.loadInOrder, importScript_eq hr]
    rcases World.importScript (s.settings.get .httpTimeout) url s.world with ⟨_ | fault, w⟩
    · dsimp only
      rw [ih (s := s.after w []) hr, after_after]
      rfl
    · rfl

/-- Scripts are imported in one call. -/
theorem importAll_eq (hr : s.running? = none) (a : Nat) (urls : List Datum) :
    ∃ deeds, Toils a none deeds ∧
      Bridge.importAll importScript (callForAll a urls) urls s =
        ((Bridge.importAll (World.importScript (s.settings.get .httpTimeout)) Bridge.importNote urls
            s.world).1,
          s.after (Bridge.importAll (World.importScript (s.settings.get .httpTimeout))
            Bridge.importNote urls s.world).2 deeds) := by
  unfold Bridge.importAll
  rcases Datum.joinTexts 0 urls with fault | names
  · exact ⟨[], toils_nil a, by rw [after_nil]⟩
  · refine ⟨[.settled a true, .loadAll a urls], ⟨by simp [Deed.attempt?], by simp⟩, ?_⟩
    have hcall : callForAll a urls names s =
        s.after (Bridge.importNote names s.world) [.settled a true, .loadAll a urls] := by
      simp [callForAll, did, mapWorld, after]
    dsimp only
    rw [hcall, loadInOrder_eq (s := s.after _ _) hr]
    have hsettings : (s.after (Bridge.importNote names s.world)
      [.settled a true, .loadAll a urls]).settings = s.settings := rfl
    have hworld : (s.after (Bridge.importNote names s.world)
      [.settled a true, .loadAll a urls]).world = Bridge.importNote names s.world := rfl
    rw [hsettings, hworld, after_after]
    rcases Bridge.loadInOrder (World.importScript (s.settings.get .httpTimeout)) urls
      (Bridge.importNote names s.world) with ⟨_ | fault, w⟩ <;> rfl

/-- What an attempt begins with. -/
theorem startAttempt_eq (a : Nat) (s : Session) :
    ∃ entries : List Entry, s.startAttempt a =
      let noted := s.after (s.world.noting entries) [.choose a s.world.host.means]
      match Bridge.chooseStrategy s.world.host.means with
      | .error fault => noted.failAttempt a fault
      | .ok .each => (noted.did (.settled a true)).appendScripts a s.settings.scriptUrls
      | .ok .bulk => settleScript a (·.afterScripts a) (Bridge.importAll importScript
          (callForAll a s.settings.scriptUrls) s.settings.scriptUrls noted) := by
  let number := (s.crossings[s.bridgeOf a]?.map (·.attempts)).getD 0
  exact ⟨[⟨.info, .bridge, s!"Loading {s.heavy} dependencies (attempt {number})"⟩], rfl⟩

/-- An attempt alone comes to its end, or is stuck in the adapter source. -/
theorem leads_startAttempt (h : Strives n a i s) :
    ∃ entries outcome w adapter deeds s',
      Crosses s.settings (s.cell i).interpreter (s.world.noting entries) outcome w adapter ∧
      Toils a adapter deeds ∧ Lands a i s w deeds outcome s' ∧
      Leads (s.startAttempt a) s' := by
  obtain ⟨entries, hstart⟩ := startAttempt_eq a s
  let chosen := [Deed.choose a s.world.host.means]
  have htoils : Toils a none chosen := ⟨by simp [chosen, Deed.attempt?], by simp [chosen]⟩
  let noted := s.after (s.world.noting entries) chosen
  have hnoted : Strives n a i noted := h.after (w := s.world.noting entries) h.still.guarded chosen
  -- what follows when the scripts have been loaded is the same for all ways to load them
  have hloaded : ∃ deeds stage, Toils a none deeds ∧
      Leads (s.startAttempt a) (settleScripts a
        ((loadHeavy s.settings noted.world).1,
          (s.setAttempt a stage).after (loadHeavy s.settings noted.world).2 deeds)) := by
    obtain ⟨stage, hattempt⟩ := h.attempt
    have hself := setAttempt_self hattempt
    rw [hstart]
    unfold loadHeavy
    have hmeans : noted.world.host.means = s.world.host.means := rfl
    rw [hmeans]
    dsimp only
    rcases Bridge.chooseStrategy s.world.host.means with fault | _ | _
    · refine ⟨chosen, stage, htoils, ?_⟩
      dsimp only [settleScripts]
      rw [hself]
      exact .refl
    · obtain ⟨deeds, stage', hdeeds, hleads⟩ := leads_appendScripts s.settings.scriptUrls
        (s := s.after (s.world.noting entries) (chosen ++ [.settled a true]))
        (h.after (w := s.world.noting entries) h.still.guarded _)
      refine ⟨chosen ++ [.settled a true] ++ deeds, stage', (htoils.settled true).append hdeeds, ?_⟩
      have hsame (w : World) : ((s.after (s.world.noting entries)
          (chosen ++ [.settled a true])).setAttempt a stage').after w deeds =
          (s.setAttempt a stage').after w (chosen ++ [.settled a true] ++ deeds) :=
        after_after (s.world.noting entries) w _ deeds (s.setAttempt a stage')
      rw [hsame] at hleads
      simp only [after_did]
      exact hleads
    · obtain ⟨deeds, hdeeds, heq⟩ :=
        importAll_eq hnoted.still.running? a s.settings.scriptUrls
      have hsettings : noted.settings = s.settings := rfl
      dsimp only
      rw [heq, hsettings]
      rcases Bridge.importAll (World.importScript (s.settings.get .httpTimeout)) Bridge.importNote
        s.settings.scriptUrls noted.world with ⟨_ | fault, w⟩
      · refine ⟨chosen ++ deeds ++ [.settled a true], stage,
          (htoils.append hdeeds).settled true, ?_⟩
        simp only [settleScript, settleScripts, hself, noted, after_after, after_did]
        exact .refl
      · refine ⟨chosen ++ deeds, stage, htoils.append hdeeds, ?_⟩
        simp only [settleScript, settleScripts, hself, noted, after_after]
        exact .refl
  obtain ⟨deeds, stage, hdeeds, hleads⟩ := hloaded
  have hw := leaves_loadHeavy s.settings hnoted.still.guarded hnoted.still.host
  obtain ⟨outcome, w, adapter, more, s', hcrosses, hmore, hlands, hsettled⟩ :=
    leads_settleScripts ((h.setAttempt stage).after hw.guarded deeds)
      (Eq.refl (loadHeavy s.settings noted.world))
  exact ⟨entries, outcome, w, adapter, deeds ++ more, s', hcrosses, hdeeds.append hmore,
    hlands.of_after.of_setAttempt, hleads.trans hsettled⟩

end Chunkwise.Session
