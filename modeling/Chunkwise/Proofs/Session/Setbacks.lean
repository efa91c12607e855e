import Chunkwise.Proofs.Execution.Endings
import Chunkwise.Proofs.Session.Attempts
import Chunkwise.Proofs.Session.Rooms

/-!
What attempts fail by. The last step on the record of an attempt that has failed is the one that it
has failed at, and each kind of step has faults of its own to fail with. An adapter source that was
run has been the last step.
-/
namespace Chunkwise.Session
open Chunkwise.Execution Chunkwise.Bridge

variable {rule : Rule} {settings : Settings} {world : World} {s s' : Session} {i a : Nat}
  {record : List Deed} {last : Deed} {fault : Fault} {cause : Cause}

/-! The steps of an attempt. -/

/-- The run of an adapter source leads to this run. -/
def Adapting (settings : Settings) (run : Run (Except Fault Value)) : Prop :=
  ∃ globals source scene,
    (runChunk globals (settings.get .filename) source scene).Leads run

/-- A step of an attempt can fail with a fault. -/
def Deed.Raises (settings : Settings) (fault : Fault) : Deed → Prop
  | .choose _ _ => fault = unavailable ∨ Datum.joinTexts 0 settings.scriptUrls = .error fault
  | .load _ _ | .loadAll _ _ => ∃ message raw, fault = loadFault message raw
  | .seek _ _ => (∃ message, fault = .bridgeLoadFailure message none) ∨
      (settings.get .heavyDependency).hashed = .error fault
  | .bind _ field => (settings.get field).hashed = .error fault
  | .wrap _ _ => fault = noTensor
  | .fetch _ => ∃ raw, fault = fetchFault (settings.get .adapterUrl) raw
  | .adapt _ => ∃ raw scene, Adapting settings (.done (.error raw) scene) ∧ fault = adapterFault raw
  | _ => False

/-- The record of an attempt explains its stage. If it has failed, the last step is the one that it
has failed at, and can fail so. -/
def Loading.Explained (settings : Settings) (a : Nat) (record : List Deed) : Loading → Prop
  | .running resume => ∃ scene, Adapting settings (.suspended scene resume)
  | .ended (some fault) => ∃ front step,
      record = front ++ [step, .settled a false] ∧ step.Raises settings fault
  | _ => True

/-- The record of an attempt explains where it stands. -/
def Explained (settings : Settings) (a : Nat) (s : Session) : Prop :=
  ∀ stage, s.loading? a = some stage → stage.Explained settings a (s.strides a)

theorem Stands.explained (h : Stands settings a (record ++ [last]) s)
    (hlast : last.Raises settings fault) : Explained settings a (s.failAttempt a fault) := by
  obtain ⟨hstage, hrecord⟩ := h.failAttempt fault
  intro stage hf
  obtain rfl : .ended (some fault) = stage := by simpa [hstage] using hf
  exact ⟨record, last, by simp [hrecord], hlast⟩

/-- An attempt that goes on after a while has not failed. -/
theorem Stands.paused (h : Stands settings a record s) (stage : Loading) (s' : Session)
    (hs : s'.attempts = (s.setAttempt a stage).attempts)
    (hstage : ∀ record, stage.Explained settings a record) : Explained settings a s' := by
  obtain ⟨old, hold⟩ := Option.isSome_iff_exists.mp h.alive
  intro other hother
  rw [loading?, hs, ← loading?, loading?_setAttempt, hold, Option.map_some] at hother
  cases hother
  exact hstage _

namespace Stands

theorem explained_followAdapter (h : Stands settings a (record ++ [.adapt a]) s) (i : Nat)
    {run : Run (Except Fault Value)} (hrun : Adapting settings run) :
    Explained settings a (s.followAdapter a i run) := by
  cases run with
  | exhausted => exact h.paused _ _ rfl fun _ => trivial
  | suspended scene resume => exact h.paused _ _ rfl fun _ => ⟨scene, hrun⟩
  | done result scene =>
    have hleft : Stands settings a (record ++ [.adapt a]) ((s.leave i scene).releaseRun i) :=
      ⟨h.settings, h.alive, h.onRecord⟩
    cases result with
    | ok v =>
      simp only [Session.followAdapter, adapterNote]
      split <;> exact hleft.paused (.ended none) _ rfl fun _ => trivial
    | error fault => exact hleft.explained ⟨fault, scene, hrun, rfl⟩

theorem explained_runAdapter (h : Stands settings a record s) (source : String) :
    Explained settings a (s.runAdapter a source) := by
  obtain rfl : s.settings = settings := h.settings
  exact (h.did (.adapt a) rfl).explained_followAdapter _ ⟨_, source, _, .refl⟩

theorem explained_queueAdapter (h : Stands settings a record s) (source : String) :
    Explained settings a (s.queueAdapter a source) := by
  simp only [Session.queueAdapter]
  split
  · exact (h.mapLock _ _).explained_runAdapter source
  · exact (h.mapLock _ _).paused _ _ rfl fun _ => trivial

theorem explained_fetchAdapter (h : Stands settings a (record ++ [.fetch a]) s) (turns : Nat) :
    Explained settings a (s.fetchAdapter a turns) := by
  obtain rfl := h.settings
  cases turns with
  | succ turns => exact h.paused _ _ rfl fun _ => trivial
  | zero =>
    simp only [Session.fetchAdapter]
    split
    next source w _ =>
      exact ((h.withWorld w).did (.settled a true) rfl).explained_queueAdapter source
    next fault w _ => exact (h.withWorld w).explained ⟨fault, rfl⟩

end Stands

/-- What is refused a name is a setting that cannot be a key. -/
theorem hashed_of_bindName {field : Settings.Field} {v : Value}
    (h : s.bindName i field v = (some fault, s')) :
    (s.settings.get field).hashed = .error fault := by
  unfold bindName at h
  split at h
  · cases h
  next key hkey =>
    split at h
    · cases h
    next fault' hfault =>
      cases h
      exact hfault

/-! Adapters. -/

/-- A step on a store that never fails. -/
def Sure {α : Type} (action : Store.Action α) : Prop :=
  ∀ store, ∃ found store', action store = (.ok found, store')

theorem sure_pure {α : Type} (x : α) : Sure (pure x) := fun store => ⟨x, store, rfl⟩

theorem sure_natural (x : Address) (nature : Nature) (name : String) :
    Sure (Store.natural? x nature name) := by
  unfold Store.natural?
  split
  · unfold Store.exceptionAttribute?
    split
    · exact fun store => ⟨_, _, rfl⟩
    all_goals exact sure_pure _
  all_goals exact sure_pure _

/-- Whether a value has an attribute can always be told. -/
theorem sure_attribute (v : Value) (name : String) : Sure (Store.attribute? v name) := by
  unfold Store.attribute?
  cases v with
  | ref x =>
    intro store
    simp only [Store.Action.bind_apply, Store.Action.reading]
    rcases store.get? x with _ | object
    · exact sure_pure _ store
    · dsimp only
      rcases object.attributes.get? name with _ | held
      · exact sure_natural _ _ _ store
      · exact sure_pure _ store
  | _ => exact sure_pure _

/-- Adapters are made around every library that has a tensor class. -/
theorem makeAdapters_error {library : Value} {store : Store}
    (h : (makeAdapters library store).1 = .error fault) : fault = noTensor := by
  obtain ⟨held, store', hheld⟩ := sure_attribute library "Tensor" store
  simp only [makeAdapters, tensorClassOf, Store.Action.bind_apply, hheld, Store.Action.reading] at h
  generalize Option.filter _ _ = own at h
  generalize Option.filter _ _ = entry at h
  rcases own with _ | own <;> rcases entry with _ | entry
  · exact (Except.error.inj h).symm
  all_goals cases h

/-! The rest of the way, from its end to its start. -/

namespace Stands

theorem explained_bindLibrary (h : Stands settings a record s) (library : Value) :
    Explained settings a (s.bindLibrary a library) := by
  have hraw := (h.did (.bind a .rawBinding) rfl).bindName (s.interpreterOf a) .rawBinding library
  unfold Session.bindLibrary
  dsimp only
  rcases hbind : (s.did (.bind a .rawBinding)).bindName (s.interpreterOf a) .rawBinding library
    with ⟨_ | fault, s₁⟩
  all_goals rw [hbind] at hraw
  · have hwrap := (hraw.did (.settled a true) rfl).did (.wrap a (s₁.tensorOf library)) rfl
    dsimp only
    generalize (s₁.did (.settled a true)).did (.wrap a (s₁.tensorOf library)) = s₂ at hwrap ⊢
    rcases hact : s₂.world.act (makeAdapters library) with ⟨fault | adapters, w⟩
    · exact (hwrap.withWorld w).explained (makeAdapters_error (congrArg Prod.fst hact))
    · have hutils := ((hwrap.withWorld w).did (.settled a true) rfl).did (.bind a .utilsBinding) rfl
      have hbound := hutils.bindName (s.interpreterOf a) .utilsBinding adapters
      dsimp only at hbound ⊢
      rcases hbind : Session.bindName (s.interpreterOf a) .utilsBinding adapters _
        with ⟨_ | fault, s₃⟩
      all_goals rw [hbind] at hbound
      · exact ((hbound.did (.settled a true) rfl).did (.fetch a) rfl).explained_fetchAdapter _
      · refine hbound.explained ?_
        have hrefused := hashed_of_bindName hbind
        rwa [hutils.settings] at hrefused
  · refine hraw.explained ?_
    have hrefused := hashed_of_bindName hbind
    rwa [(h.did (.bind a .rawBinding) rfl).settings] at hrefused

theorem explained_afterScripts (h : Stands settings a record s) :
    Explained settings a (s.afterScripts a) := by
  have hsought := h.did (.seek a s.library?) rfl
  unfold Session.afterScripts
  dsimp only
  split
  next fault hkey =>
    refine hsought.explained (.inr ?_)
    rwa [hsought.settings] at hkey
  · split
    · exact hsought.explained (.inl ⟨_, rfl⟩)
    · exact hsought.explained (.inl ⟨_, rfl⟩)
    · exact (hsought.did (.settled a true) rfl).explained_bindLibrary _

/-- The result of loading scripts decides whether the attempt goes on. -/
theorem explained_settleScript {next : Session → Session} {result : Option Fault × Session}
    (h : Stands settings a (record ++ [last]) result.2)
    (hlast : ∀ fault, result.1 = some fault → last.Raises settings fault)
    (hnext : ∀ s record, Stands settings a record s → Explained settings a (next s)) :
    Explained settings a (Session.settleScript a next result) := by
  obtain ⟨_ | fault, s⟩ := result
  · exact hnext _ _ (h.did (.settled a true) rfl)
  · exact h.explained (hlast fault rfl)

theorem explained_settleAppend {next : Session → Session} {url : Datum}
    (h : Stands settings a (record ++ [.load a url]) s)
    (hnext : ∀ s record, Stands settings a record s → Explained settings a (next s)) :
    Explained settings a (Session.settleScript a next (append lookUpScript url s)) := by
  have hload : Stands settings a (record ++ [.load a url]) (append lookUpScript url s).2 := by
    rw [append_snd]
    exact h.withWorld _
  refine hload.explained_settleScript (fun fault hfault => ?_) hnext
  unfold append at hfault
  split at hfault
  · cases hfault
  · exact ⟨_, _, (Option.some.inj hfault).symm⟩

theorem explained_appendScripts (h : Stands settings a record s) (urls : List Datum) :
    Explained settings a (s.appendScripts a urls) := by
  induction urls generalizing record s with
  | nil => exact h.explained_afterScripts
  | cons url rest ih =>
    have hload := (h.did (.load a url) rfl).withWorld (appendNote url s.world)
    simp only [Session.appendScripts]
    split
    · exact hload.paused _ _ rfl fun _ => trivial
    · exact hload.explained_settleAppend fun _ _ hs => ih hs

theorem explained_settleImport {next : Session → Session} {means : World.Means}
    (h : Stands settings a (record ++ [.choose a means]) s)
    (hnext : ∀ s record, Stands settings a record s → Explained settings a (next s)) :
    Explained settings a (Session.settleScript a next (importAll Session.importScript
      (callForAll a settings.scriptUrls) settings.scriptUrls s)) := by
  unfold importAll
  split
  next fault hurls => exact h.explained (.inr hurls)
  next names _ =>
    have hcalled : Stands settings a
        (record ++ [.choose a means] ++ [.settled a true] ++ [.loadAll a settings.scriptUrls])
        (callForAll a settings.scriptUrls names s) :=
      ((h.did (.settled a true) rfl).did (.loadAll a settings.scriptUrls) rfl).withWorld _
    have hloaded := loadInOrder_keeps (P := Stands settings a _)
      (fun url _ hs => hs.importScript url) settings.scriptUrls hcalled
    generalize loadInOrder Session.importScript _ _ = result at hloaded ⊢
    obtain ⟨_ | fault, s'⟩ := result
    · exact hnext _ _ (hloaded.did (.settled a true) rfl)
    · exact hloaded.explained ⟨_, _, rfl⟩

theorem explained_startAttempt (h : Stands settings a record s) :
    Explained settings a (s.startAttempt a) := by
  obtain rfl : s.settings = settings := h.settings
  unfold Session.startAttempt
  dsimp only
  generalize World.note _ _ _ = note
  have hchosen := (h.withWorld (note s.world)).did (.choose a (note s.world).host.means) rfl
  split
  next hmeans =>
    refine hchosen.explained (.inl ?_)
    unfold chooseStrategy at hmeans
    split at hmeans <;> cases hmeans
    rfl
  · exact (hchosen.did (.settled a true) rfl).explained_appendScripts _
  · exact hchosen.explained_settleImport fun _ _ hs => hs.explained_afterScripts

end Stands

/-- An attempt that goes on fails at the step that it has put on record last. -/
theorem Explained.continueAttempt (h : Explained settings a s) (hr : Recorded settings a s)
    (hs : s.settings = settings) : Explained settings a (s.continueAttempt a) := by
  have hstands (halive : (s.loading? a).isSome) : Stands settings a (s.strides a) s :=
    ⟨hs, halive, rfl⟩
  unfold Recorded at hr
  unfold Session.continueAttempt
  generalize hstage : s.loading? a = stage at hr hstands ⊢
  generalize s.strides a = record at hr hstands
  cases hr with
  | starting => exact (hstands rfl).explained_startAttempt
  | @appending front rest url turns urls =>
    cases turns with
    | zero =>
      exact (hstands rfl).explained_settleAppend fun _ _ hs' => hs'.explained_appendScripts _
    | succ turns => exact (hstands rfl).paused _ _ rfl fun _ => trivial
  | fetching => exact (hstands rfl).explained_fetchAdapter _
  | queued =>
    dsimp only
    split
    · exact ((hstands rfl).mapLock _ _).explained_runAdapter _
    · exact h
  | @running _ resume =>
    obtain ⟨scene, globals, source, first, hleads⟩ := h _ hstage
    exact (hstands rfl).explained_followAdapter _ ⟨globals, source, first, .resumed _ hleads⟩
  | unborn | stuck | ready | failed => exact h

theorem Explained.step (h : Explained settings a s) (hr : Recorded settings a s)
    (hs : s.settings = settings) (hstep : Step cause s s') : Explained settings a s' := by
  by_cases hc : cause = .fire (.attempt a)
  · subst hc
    obtain ⟨ready⟩ := hstep
    exact Explained.continueAttempt (s := { s with ready := s.ready.erase (.attempt a) }) h hr hs
  · obtain ⟨hstrides, hsame | ⟨-, hnew⟩⟩ := hstep.unmoved hc
    · intro stage hstage
      rw [hstrides]
      exact h stage (hsame ▸ hstage)
    · intro stage hstage
      cases hnew.symm.trans hstage
      trivial

/-- Whatever comes, the record of each attempt explains where it stands. -/
theorem explained_of_reaches (h : Reaches rule (fresh settings world [] none) s) (a : Nat) :
    Explained settings a s := by
  induction h with
  | refl => exact nofun
  | tail h hstep ih =>
    obtain ⟨cause, hstep, -⟩ := hstep
    exact ih.step (recorded_of_reaches (recorded_fresh settings world [] none) rfl h a)
      (visits_of_reaches h).later.settings hstep

/-- An attempt whose adapter source has run fails as that does. -/
theorem Reaches.adapted (h : Reaches rule (fresh settings world [] none) s)
    (hadapt : .adapt a ∈ s.deeds) (hended : s.loading? a = some (.ended (some fault))) :
    ∃ raw scene, Adapting settings (.done (.error raw) scene) ∧ fault = adapterFault raw := by
  obtain ⟨record, last, hrecord, hlast⟩ := explained_of_reaches h a _ hended
  have hcharts := recorded_of_reaches (recorded_fresh settings world [] none) rfl h a
  rw [Recorded, hended] at hcharts
  obtain ⟨f, front, step, hway, -, hsteps⟩ := hcharts.of_failed
  obtain ⟨rfl, hlasts⟩ := List.append_inj' (hrecord.symm.trans hsteps) rfl
  obtain rfl : last = step := (List.cons.inj hlasts).1
  rw [way_eq, List.prefix_concat_iff] at hway
  rcases hway with hwhole | hpart
  · obtain rfl : last = .adapt a := by simpa using (List.append_inj' hwhole rfl).2
    exact hlast
  · have hnot : .adapt a ∉ front ++ [last] := fun hmem =>
      adapt_not_mem_approach f (hpart.subset hmem)
    have hmem : .adapt a ∈ s.strides a := List.mem_filter.mpr ⟨hadapt, by simp [Deed.attempt?]⟩
    rw [hsteps, List.mem_append] at hmem
    rcases hmem with hmem | hmem
    · exact absurd hmem (adapt_not_mem_done fun h => hnot (List.mem_append_left _ h))
    · simp only [List.mem_cons, reduceCtorEq, List.not_mem_nil, or_false] at hmem
      exact absurd (hmem ▸ List.mem_append_right _ (List.mem_singleton_self _)) hnot

end Chunkwise.Session
