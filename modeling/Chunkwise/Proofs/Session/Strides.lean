import Chunkwise.Proofs.Session.Bridges
import Chunkwise.Proofs.Store.Spares

/-!
The steps of an attempt. Its record tells how far it has come: a step is taken when the one before
has succeeded, and the attempt ends with the first that fails or when none is left.
-/
namespace Chunkwise.Session
open Chunkwise.Execution Chunkwise.Bridge

/-- What an attempt finds on its way. -/
structure Findings where
  means : World.Means
  /-- What the host has under the name of the heavy library once the scripts are loaded. -/
  found : Option Value
  /-- The tensor class of that. -/
  tensor : Option Value

/-- Nothing that an attempt looks for is missing. -/
structure Findings.Complete (f : Findings) : Prop where
  means : f.means ≠ .none
  found : ∃ library, f.found = some library ∧ library ≠ .null
  tensor : f.tensor ≠ none

/-- What a step looks for is there. -/
def Deed.Holds : Deed → Prop
  | .choose _ means => means ≠ .none
  | .seek _ found => ∃ library, found = some library ∧ library ≠ .null
  | .wrap _ tensor => tensor ≠ none
  | _ => True

/-- A step that fails only if what it looks for is missing. -/
def Deed.isLook : Deed → Bool
  | .seek _ _ | .wrap _ _ => true
  | _ => false

/-- A step, not what comes of it. -/
def Deed.isStep : Deed → Bool
  | .settled _ _ => false
  | _ => true

/-- A step that has an effect. -/
def Deed.isEffect : Deed → Bool
  | .load _ _ | .loadAll _ _ | .bind _ _ | .fetch _ | .adapt _ => true
  | _ => false

/-- A step that comes before anything is bound. -/
def Deed.isEarly : Deed → Bool
  | .choose _ _ | .load _ _ | .loadAll _ _ | .seek _ _ => true
  | _ => false

/-- Each step with its success. -/
def done (a : Nat) (steps : List Deed) : List Deed :=
  steps.flatMap fun step => [step, .settled a true]

/-- What is on record of an attempt. -/
def strides (a : Nat) (s : Session) : List Deed :=
  s.deeds.filter (·.attempt? = some a)

section
variable (settings : Settings) (a : Nat)

/-- The scripts are loaded in the order of the settings. -/
def loads : World.Means → List Deed
  | .document => settings.scriptUrls.map (.load a)
  | .bulk => [.loadAll a settings.scriptUrls]
  | .none => []

/-- The steps until the adapter source is asked for. -/
def approach (f : Findings) : List Deed :=
  .choose a f.means :: loads settings a f.means ++
    [.seek a f.found, .bind a .rawBinding, .wrap a f.tensor, .bind a .utilsBinding]

/-- All steps of an attempt. -/
def way (f : Findings) : List Deed :=
  approach settings a f ++ [.fetch a, .adapt a]

/-- The effects of an attempt. -/
def effects (means : World.Means) : List Deed :=
  loads settings a means ++
    [.bind a .rawBinding, .bind a .utilsBinding, .fetch a, .adapt a]

/-- What the record of an attempt tells of where it stands. -/
inductive Charts : Option Loading → List Deed → Prop
  | unborn : Charts none []
  | starting : Charts (some .starting) []
  | appending {front rest : List Datum} {url : Datum} {turns : Nat}
      (urls : settings.scriptUrls = front ++ url :: rest) :
      Charts (some (.appending url rest turns))
        (done a (.choose a .document :: front.map (.load a)) ++ [.load a url])
  | fetching {f : Findings} {turns : Nat} (complete : f.Complete) :
      Charts (some (.fetching turns)) (done a (approach settings a f) ++ [.fetch a])
  | queued {f : Findings} {source : String} (complete : f.Complete) :
      Charts (some (.queuedToRun source)) (done a (approach settings a f ++ [.fetch a]))
  | running {f : Findings} {resume : Scene → Run (Except Fault Value)} (complete : f.Complete) :
      Charts (some (.running resume)) (done a (approach settings a f ++ [.fetch a]) ++ [.adapt a])
  | stuck {f : Findings} (complete : f.Complete) :
      Charts (some .stuck) (done a (approach settings a f ++ [.fetch a]) ++ [.adapt a])
  | ready {f : Findings} (complete : f.Complete) :
      Charts (some (.ended none)) (done a (way settings a f))
  | failed {f : Findings} {fault : Fault} {front : List Deed} {step : Deed}
      (onWay : front ++ [step] <+: way settings a f) (passed : ∀ deed ∈ front, deed.Holds)
      (missed : step.isLook → ¬step.Holds) :
      Charts (some (.ended (some fault))) (done a front ++ [step, .settled a false])

/-- The record of an attempt tells where it stands in a session. -/
abbrev Recorded (s : Session) : Prop :=
  Charts settings a (s.loading? a) (s.strides a)

/-- An attempt is at work in a session and has this on record. -/
structure Stands (record : List Deed) (s : Session) : Prop where
  settings : s.settings = settings
  alive : (s.loading? a).isSome
  onRecord : s.strides a = record

end

variable {settings : Settings} {a : Nat} {s : Session} {record front : List Deed} {step : Deed}
  {f : Findings}

@[simp] theorem done_nil : done a [] = [] := rfl

@[simp] theorem done_append (steps steps' : List Deed) :
    done a (steps ++ steps') = done a steps ++ done a steps' :=
  List.flatMap_append

@[simp] theorem done_cons (step : Deed) (steps : List Deed) :
    done a (step :: steps) = step :: .settled a true :: done a steps := rfl

theorem strides_did {deed : Deed} (h : deed.attempt? = some a) (s : Session) :
    (s.did deed).strides a = s.strides a ++ [deed] := by
  simp [strides, did, h]

/-- What is on record of an attempt stays there. -/
theorem Moves.strides {x y : Point × Session} (m : Moves x y) :
    x.2.strides a <+: y.2.strides a := by
  induction m with
  | refl => exact List.prefix_rfl
  | tail _ m ih =>
    refine ih.trans ?_
    rcases Move.deeds m with hsame | ⟨last, -, hnew⟩
    · simp only [Session.strides, hsame, List.prefix_rfl]
    · simp only [Session.strides, hnew, List.filter_append, List.prefix_append]

theorem Stands.did (h : Stands settings a record s) (deed : Deed) (hd : deed.attempt? = some a) :
    Stands settings a (record ++ [deed]) (s.did deed) :=
  ⟨h.settings, h.alive, h.onRecord ▸ strides_did hd s⟩

/-- The step that was taken last has succeeded. -/
theorem Stands.settled (h : Stands settings a (done a front ++ [step]) s) :
    Stands settings a (done a (front ++ [step])) (s.did (.settled a true)) := by
  simpa using h.did (.settled a true) rfl

theorem Stands.withWorld (h : Stands settings a record s) (world : World) :
    Stands settings a record { s with world := world } :=
  ⟨h.settings, h.alive, h.onRecord⟩

theorem Stands.mapLock (h : Stands settings a record s) (i : Nat) (f : Lock → Lock) :
    Stands settings a record (s.mapLock i f) :=
  ⟨h.settings, h.alive, h.onRecord⟩

theorem Stands.bindName (h : Stands settings a record s) (i : Nat) (field : Settings.Field)
    (v : Value) : Stands settings a record (s.bindName i field v).2 := by
  unfold Session.bindName
  split
  · exact h.withWorld _
  · split <;> exact h

/-- An attempt that changes its stage keeps what is on record. -/
theorem Stands.stage (h : Stands settings a record s) (stage : Loading) (s' : Session)
    (hs : s'.attempts = (s.setAttempt a stage).attempts) (hd : s'.deeds = s.deeds) :
    s'.loading? a = some stage ∧ s'.strides a = record := by
  obtain ⟨old, hold⟩ := Option.isSome_iff_exists.mp h.alive
  constructor
  · rw [loading?, hs, ← loading?, loading?_setAttempt, hold, Option.map_some]
  · rw [← h.onRecord, strides, hd, ← strides]

theorem Stands.pause (h : Stands settings a record s) {stage : Loading}
    (ht : Charts settings a (some stage) record) (s' : Session)
    (hs : s'.attempts = (s.setAttempt a stage).attempts) (hd : s'.deeds = s.deeds) :
    Recorded settings a s' := by
  obtain ⟨hstage, hrecord⟩ := h.stage stage s' hs hd
  rwa [Recorded, hstage, hrecord]

/-- That an attempt has succeeded is on record of its interpreter, not of its steps. -/
theorem Stands.arrive (h : Stands settings a record s)
    (ht : Charts settings a (some (.ended none)) record) : Recorded settings a (s.endAttempt a none) := by
  have hcrossed : Stands settings a record (s.did (.crossed a (s.interpreterOf a))) :=
    ⟨h.settings, h.alive, by simpa [strides, Session.did, Deed.attempt?] using h.onRecord⟩
  exact hcrossed.pause ht _ rfl rfl

/-- An attempt that fails puts nothing else on record. -/
theorem Stands.failAttempt (h : Stands settings a record s) (fault : Fault) :
    (s.failAttempt a fault).loading? a = some (.ended (some fault)) ∧
      (s.failAttempt a fault).strides a = record ++ [.settled a false] := by
  have hsettled := h.did (.settled a false) rfl
  unfold Session.failAttempt
  split <;> exact hsettled.stage _ _ rfl rfl

/-- A step that fails is the last. -/
theorem Stands.fail (h : Stands settings a (done a front ++ [step]) s) (fault : Fault)
    (onWay : front ++ [step] <+: way settings a f) (passed : ∀ deed ∈ front, deed.Holds)
    (missed : step.isLook = false ∨ ¬step.Holds) : Recorded settings a (s.failAttempt a fault) := by
  obtain ⟨hstage, hrecord⟩ := h.failAttempt fault
  rw [Recorded, hstage, hrecord, List.append_assoc]
  exact .failed onWay passed fun hlook => missed.resolve_left (by simp [hlook])

/-! What each part of an attempt puts on record, from the last to the first. -/

theorem way_eq (settings : Settings) (a : Nat) (f : Findings) :
    way settings a f = approach settings a f ++ [.fetch a] ++ [.adapt a] := by
  simp [way]

theorem mem_loads {means : World.Means} {deed : Deed} (h : deed ∈ loads settings a means) :
    (∃ url, deed = .load a url) ∨ ∃ urls, deed = .loadAll a urls := by
  unfold loads at h
  split at h
  · obtain ⟨url, -, rfl⟩ := List.mem_map.mp h
    exact .inl ⟨url, rfl⟩
  · exact .inr ⟨_, List.mem_singleton.mp h⟩
  · contradiction

theorem holds_loads {means : World.Means} {deed : Deed} (h : deed ∈ loads settings a means) :
    deed.Holds := by
  obtain ⟨url, rfl⟩ | ⟨urls, rfl⟩ := mem_loads h <;> trivial

theorem Findings.Complete.holds (hf : f.Complete) {deed : Deed} (h : deed ∈ way settings a f) :
    deed.Holds := by
  simp only [way, approach, List.cons_append, List.mem_cons, List.mem_append] at h
  obtain rfl | (h | rfl | rfl | rfl | rfl | h) | rfl | rfl | h := h
  · exact hf.means
  · exact holds_loads h
  · exact hf.found
  · trivial
  · exact hf.tensor
  all_goals trivial

theorem Stands.followAdapter
    (h : Stands settings a (done a (approach settings a f ++ [.fetch a]) ++ [.adapt a]) s)
    (hf : f.Complete) (i : Nat) (run : Run (Except Fault Value)) :
    Recorded settings a (s.followAdapter a i run) := by
  cases run with
  | exhausted => exact h.pause (.stuck hf) _ rfl rfl
  | suspended scene resume => exact h.pause (.running hf) _ rfl rfl
  | done result scene =>
    have hleft : Stands settings a (done a (approach settings a f ++ [.fetch a]) ++ [.adapt a])
        ((s.leave i scene).releaseRun i) := ⟨h.settings, h.alive, h.onRecord⟩
    cases result with
    | ok v =>
      have hdone := hleft.settled
      rw [← way_eq] at hdone
      simp only [Session.followAdapter, adapterNote]
      split <;> exact (hdone.withWorld _).arrive (.ready hf)
    | error fault =>
      refine hleft.fail (f := f) _ (way_eq settings a f ▸ List.prefix_rfl) (fun deed hdeed => ?_) (.inl rfl)
      exact hf.holds (way_eq settings a f ▸ List.mem_append_left _ hdeed)

theorem Stands.runAdapter (h : Stands settings a (done a (approach settings a f ++ [.fetch a])) s)
    (hf : f.Complete) (source : String) : Recorded settings a (s.runAdapter a source) :=
  (h.did (.adapt a) rfl).followAdapter hf _ _

theorem Stands.queueAdapter (h : Stands settings a (done a (approach settings a f ++ [.fetch a])) s)
    (hf : f.Complete) (source : String) : Recorded settings a (s.queueAdapter a source) := by
  simp only [Session.queueAdapter]
  split
  · exact (h.mapLock _ _).runAdapter hf source
  · exact (h.mapLock _ _).pause (.queued hf) _ rfl rfl

theorem Stands.fetchAdapter
    (h : Stands settings a (done a (approach settings a f) ++ [.fetch a]) s) (hf : f.Complete)
    (turns : Nat) : Recorded settings a (s.fetchAdapter a turns) := by
  cases turns with
  | succ turns => exact h.pause (.fetching hf) _ rfl rfl
  | zero =>
    simp only [Session.fetchAdapter]
    split
    next source w _ => exact (h.withWorld w).settled.queueAdapter hf source
    next fault w _ =>
      refine (h.withWorld w).fail (f := f) _ ?_ (fun deed hdeed => ?_) (.inl rfl)
      · exact ⟨[.adapt a], (way_eq settings a f).symm⟩
      · exact hf.holds (List.mem_append_left _ hdeed)

/-- Adapters are made around a library if it has a tensor class. -/
theorem tensorOf_eq_none (library : Value) (s : Session) :
    s.tensorOf library = none ↔
      ∃ fault, (s.world.act (makeAdapters library)).1 = .error fault := by
  simp only [tensorOf, World.act, makeAdapters, Store.Action.bind_apply]
  rcases tensorClassOf library s.world.store with ⟨fault | tensor, store⟩
  · simp [Except.toOption]
  · simp [Except.toOption, Store.Action.make]

theorem Stands.bindLibrary {means : World.Means} {library : Value}
    (h : Stands settings a
      (done a (.choose a means :: loads settings a means ++ [.seek a (some library)])) s)
    (hm : means ≠ .none) (hl : library ≠ .null) : Recorded settings a (s.bindLibrary a library) := by
  have hfront : ∀ deed ∈ Deed.choose a means :: loads settings a means ++ [.seek a (some library)],
      deed.Holds := by
    simp only [List.cons_append, List.mem_cons, List.mem_append, List.not_mem_nil, or_false]
    rintro deed (rfl | hdeed | rfl)
    exacts [hm, holds_loads hdeed, ⟨library, rfl, hl⟩]
  have hbound := List.forall_mem_append.mpr
    ⟨hfront, List.forall_mem_singleton.mpr (show (Deed.bind a .rawBinding).Holds from trivial)⟩
  have hraw := (h.did (.bind a .rawBinding) rfl).bindName (s.interpreterOf a) .rawBinding
    library
  unfold Session.bindLibrary
  dsimp only
  generalize (s.did (.bind a .rawBinding)).bindName (s.interpreterOf a) .rawBinding library = raw
    at hraw
  obtain ⟨_ | fault, s₁⟩ := raw
  · have hwrap := hraw.settled.did (.wrap a (s₁.tensorOf library)) rfl
    have htensor := tensorOf_eq_none library s₁
    dsimp only at hwrap ⊢
    generalize s₁.tensorOf library = tensor at hwrap htensor ⊢
    have hworld : ((s₁.did (.settled a true)).did (.wrap a tensor)).world = s₁.world := rfl
    generalize (s₁.did (.settled a true)).did (.wrap a tensor) = s₂ at hwrap hworld ⊢
    rw [← hworld] at htensor
    rcases hact : s₂.world.act (makeAdapters library) with ⟨fault | adapters, w⟩
    · have hnone : tensor = none := htensor.mpr ⟨fault, by rw [hact]⟩
      refine (hwrap.withWorld w).fail (f := ⟨means, some library, tensor⟩) _ ?_ hbound
        (.inr fun hholds => hholds hnone)
      simp [way, approach]
    · have hf : Findings.Complete ⟨means, some library, tensor⟩ := by
        refine ⟨hm, ⟨library, rfl, hl⟩, fun hnone => ?_⟩
        obtain ⟨fault, hfault⟩ := htensor.mp hnone
        rw [hact] at hfault
        cases hfault
      have hutils := ((hwrap.withWorld w).settled.did (.bind a .utilsBinding) rfl).bindName
        (s.interpreterOf a) .utilsBinding adapters
      dsimp only at hutils ⊢
      generalize Session.bindName (s.interpreterOf a) .utilsBinding adapters _ = utils at hutils ⊢
      obtain ⟨_ | fault, s₃⟩ := utils
      · have hfetch := hutils.settled.did (.fetch a) rfl
        refine Stands.fetchAdapter (f := ⟨means, some library, tensor⟩) ?_ hf _
        simpa [approach] using hfetch
      · refine hutils.fail (f := ⟨means, some library, tensor⟩) _ ?_ ?_ (.inl rfl)
        · simp [way, approach]
        · exact List.forall_mem_append.mpr ⟨hbound, List.forall_mem_singleton.mpr hf.tensor⟩
  · refine hraw.fail (f := ⟨means, some library, none⟩) _ ?_ hfront (.inl rfl)
    simp [way, approach]

theorem get_of_name? {field : Settings.Field} {name : String} (h : s.name? field = some name) :
    s.settings.get field = .str name := by
  unfold name? at h
  split at h
  next heq => rw [heq, Option.some.inj h]
  next => contradiction

theorem Stands.afterScripts {means : World.Means}
    (h : Stands settings a (done a (.choose a means :: loads settings a means)) s)
    (hm : means ≠ .none) : Recorded settings a (s.afterScripts a) := by
  have hfront : ∀ deed ∈ Deed.choose a means :: loads settings a means, deed.Holds :=
    List.forall_mem_cons.mpr ⟨hm, fun _ => holds_loads⟩
  have hsought := h.did (.seek a s.library?) rfl
  have hfail (fault : Fault) (hmissing : ¬∃ library, s.library? = some library ∧ library ≠ .null) :
      Recorded settings a ((s.did (.seek a s.library?)).failAttempt a fault) := by
    refine hsought.fail (f := ⟨means, s.library?, none⟩) fault ?_ hfront (.inr hmissing)
    simp [way, approach]
  have hlibrary : (s.did (.seek a s.library?)).library? = s.library? := rfl
  unfold Session.afterScripts
  dsimp only
  rw [hlibrary]
  split
  next fault hhash =>
    refine hfail fault ?_
    rintro ⟨library, hfound, -⟩
    obtain ⟨name, hname, -⟩ := Option.bind_eq_some_iff.mp hfound
    have hget := get_of_name? hname
    rw [show (s.did (.seek a s.library?)).settings = s.settings from rfl, hget] at hhash
    cases hhash
  · split
    next hfound => exact hfail _ (by simp [hfound])
    next hfound => exact hfail _ (by simp [hfound])
    next library hnull hfound =>
      rw [hfound] at hsought ⊢
      exact hsought.settled.bindLibrary hm hnull

/-- The result of loading a script decides whether the attempt goes on. -/
theorem Stands.settleScript {next : Session → Session} {result : Option Fault × Session}
    (h : Stands settings a (done a front ++ [step]) result.2)
    (onWay : front ++ [step] <+: way settings a f) (passed : ∀ deed ∈ front, deed.Holds)
    (missed : step.isLook = false ∨ ¬step.Holds)
    (hnext : ∀ s, Stands settings a (done a (front ++ [step])) s → Recorded settings a (next s)) :
    Recorded settings a (settleScript a next result) := by
  obtain ⟨_ | fault, s⟩ := result
  · exact hnext _ h.settled
  · exact h.fail fault onWay passed missed

theorem Stands.settleAppend {url : Datum} {front rest : List Datum} {next : Session → Session}
    (h : Stands settings a
      (done a (.choose a .document :: front.map (.load a)) ++ [.load a url]) s)
    (urls : settings.scriptUrls = front ++ url :: rest)
    (hnext : ∀ s, Stands settings a
      (done a (.choose a .document :: (front ++ [url]).map (.load a))) s → Recorded settings a (next s)) :
    Recorded settings a (Session.settleScript a next (append lookUpScript url s)) := by
  have hload : Stands settings a
      (done a (.choose a .document :: front.map (.load a)) ++ [.load a url])
      (append lookUpScript url s).2 := by
    rw [append_snd]
    exact h.withWorld _
  refine hload.settleScript (f := ⟨.document, none, none⟩) ?_ ?_ (.inl rfl) ?_
  · simp [way, approach, loads, urls]
  · refine List.forall_mem_cons.mpr ⟨nofun, fun deed hdeed => ?_⟩
    obtain ⟨url, -, rfl⟩ := List.mem_map.mp hdeed
    trivial
  · simpa using hnext

theorem Stands.appendScripts {front urls : List Datum}
    (h : Stands settings a (done a (.choose a .document :: front.map (.load a))) s)
    (hurls : settings.scriptUrls = front ++ urls) : Recorded settings a (s.appendScripts a urls) := by
  induction urls generalizing front s with
  | nil =>
    have hloaded : Stands settings a (done a (.choose a .document :: loads settings a .document)) s := by
      simpa [loads, hurls] using h
    exact hloaded.afterScripts (by decide)
  | cons url rest ih =>
    have hload := (h.did (.load a url) rfl).withWorld (appendNote url s.world)
    simp only [Session.appendScripts]
    split
    · exact hload.pause (.appending hurls) _ rfl rfl
    · refine Stands.settleAppend hload hurls fun s' hs' => ih hs' ?_
      simp [hurls]

theorem Stands.importScript (h : Stands settings a record s) (url : Datum) :
    Stands settings a record (importScript url s).2 := by
  unfold Session.importScript
  split
  · split
    · exact h.withWorld _
    · unfold runHostScript
      split
      · exact ⟨h.settings, h.alive, h.onRecord⟩
      · exact h.withWorld _
  · exact h.withWorld _

/-- All scripts are loaded in one call, unless their addresses are no texts. -/
theorem Stands.settleImport {next : Session → Session}
    (h : Stands settings a [.choose a .bulk] s)
    (hnext : ∀ s, Stands settings a (done a [.choose a .bulk, .loadAll a settings.scriptUrls]) s →
      Recorded settings a (next s)) :
    Recorded settings a (Session.settleScript a next
      (importAll Session.importScript (callForAll a settings.scriptUrls) settings.scriptUrls s)) := by
  let f : Findings := ⟨.bulk, none, none⟩
  unfold importAll
  split
  next fault _ =>
    have hchosen : Stands settings a (done a [] ++ [.choose a .bulk]) s := h
    refine hchosen.fail (f := f) fault ?_ (List.forall_mem_nil _) (.inl rfl)
    simp [f, way, approach]
  next names _ =>
    have hcalled : Stands settings a
        (done a [.choose a .bulk] ++ [.loadAll a settings.scriptUrls])
        (callForAll a settings.scriptUrls names s) :=
      ((h.did (.settled a true) rfl).did (.loadAll a settings.scriptUrls) rfl).withWorld _
    have hloaded := loadInOrder_keeps
      (P := Stands settings a (done a [.choose a .bulk] ++ [.loadAll a settings.scriptUrls]))
      (fun url _ hs => hs.importScript url) settings.scriptUrls hcalled
    generalize loadInOrder Session.importScript _ _ = result at hloaded ⊢
    obtain ⟨_ | fault, s'⟩ := result
    · exact hnext _ hloaded.settled
    · refine hloaded.fail (f := f) _ ?_ (List.forall_mem_singleton.mpr nofun) (.inl rfl)
      simp [f, way, approach, loads]

/-- The means of the host decide how the scripts are loaded. -/
theorem Stands.choose {means : World.Means} (h : Stands settings a [.choose a means] s) :
    Recorded settings a (match chooseStrategy means with
      | .error fault => s.failAttempt a fault
      | .ok .each => (s.did (.settled a true)).appendScripts a settings.scriptUrls
      | .ok .bulk => Session.settleScript a (·.afterScripts a)
        (importAll Session.importScript (callForAll a settings.scriptUrls) settings.scriptUrls s)) := by
  cases means with
  | document =>
    have hchosen : Stands settings a (done a (.choose a .document :: [].map (.load a)))
      (s.did (.settled a true)) := h.did (.settled a true) rfl
    exact hchosen.appendScripts rfl
  | bulk => exact h.settleImport fun s hs => hs.afterScripts (by decide)
  | none =>
    have hchosen : Stands settings a (done a [] ++ [.choose a .none]) s := h
    refine hchosen.fail (f := ⟨.none, none, none⟩) _ ?_ (List.forall_mem_nil _) (.inl rfl)
    simp [way, approach]

theorem Stands.startAttempt (h : Stands settings a [] s) : Recorded settings a (s.startAttempt a) := by
  obtain rfl : s.settings = settings := h.settings
  unfold Session.startAttempt
  dsimp only
  generalize World.note _ _ _ = note
  exact ((h.withWorld (note s.world)).did (.choose a (note s.world).host.means) rfl).choose

/-- An attempt that goes on puts on record what tells where it stands then. -/
theorem Recorded.continueAttempt (h : Recorded settings a s) (hs : s.settings = settings) :
    Recorded settings a (s.continueAttempt a) := by
  have hstands (halive : (s.loading? a).isSome) : Stands settings a (s.strides a) s :=
    ⟨hs, halive, rfl⟩
  have hsame := h
  unfold Recorded at h
  unfold Session.continueAttempt
  generalize s.loading? a = stage at h hstands ⊢
  generalize s.strides a = record at h hstands
  cases h with
  | unborn => exact hsame
  | starting => exact (hstands rfl).startAttempt
  | @appending front rest url turns urls =>
    cases turns with
    | zero => exact (hstands rfl).settleAppend urls fun s' hs' => hs'.appendScripts (by simp [urls])
    | succ turns => exact (hstands rfl).pause (.appending urls) _ rfl rfl
  | fetching complete => exact (hstands rfl).fetchAdapter complete _
  | queued complete =>
    dsimp only
    split
    · exact ((hstands rfl).mapLock _ _).runAdapter complete _
    · exact hsame
  | running complete => exact (hstands rfl).followAdapter complete _ _
  | stuck | ready | failed => exact hsame

/-! What follows from the record alone. -/

theorem filter_done (q : Deed → Bool) (hq : q (.settled a true) = false) (steps : List Deed) :
    (done a steps).filter q = steps.filter q := by
  induction steps with
  | nil => rfl
  | cons step steps ih => simp [List.filter_cons, hq, ih]

theorem filter_way (settings : Settings) (a : Nat) (f : Findings) :
    (way settings a f).filter Deed.isEffect = effects settings a f.means := by
  have hloads : (loads settings a f.means).filter Deed.isEffect = loads settings a f.means := by
    refine List.filter_eq_self.mpr fun deed hdeed => ?_
    obtain ⟨url, rfl⟩ | ⟨urls, rfl⟩ := mem_loads hdeed <;> rfl
  simp [way, approach, effects, List.filter_cons, Deed.isEffect, hloads]

theorem isStep_of_mem_way {deed : Deed} (h : deed ∈ way settings a f) : deed.isStep := by
  simp only [way, approach, List.cons_append, List.mem_cons, List.mem_append] at h
  obtain rfl | (h | rfl | rfl | rfl | rfl | h) | rfl | rfl | h := h
  case inr.inl.inl => obtain ⟨url, rfl⟩ | ⟨urls, rfl⟩ := mem_loads h <;> rfl
  all_goals first | rfl | contradiction

theorem done_way (settings : Settings) (a : Nat) (f : Findings) :
    done a (way settings a f) =
      done a (approach settings a f ++ [.fetch a]) ++ [.adapt a, .settled a true] := by
  simp [way]

/-- The steps on record are the first ones of the way. -/
theorem Charts.steps {stage : Option Loading} (h : Charts settings a stage record) :
    ∃ (f : Findings) (steps : List Deed), steps <+: way settings a f ∧
      ∀ q : Deed → Bool, (∀ success, q (.settled a success) = false) →
        record.filter q = steps.filter q := by
  cases h with
  | unborn | starting => exact ⟨⟨.none, none, none⟩, [], List.nil_prefix, fun _ _ => rfl⟩
  | @appending front rest url turns urls =>
    refine ⟨⟨.document, none, none⟩, .choose a .document :: front.map (.load a) ++ [.load a url], ?_,
      fun q hq => ?_⟩
    · simp [way, approach, loads, urls]
    · rw [List.filter_append, List.filter_append, filter_done q (hq true)]
  | @fetching f =>
    refine ⟨f, approach settings a f ++ [.fetch a], ⟨[.adapt a], (way_eq settings a f).symm⟩,
      fun q hq => ?_⟩
    rw [List.filter_append, List.filter_append, filter_done q (hq true)]
  | @queued f =>
    exact ⟨f, approach settings a f ++ [.fetch a], ⟨[.adapt a], (way_eq settings a f).symm⟩,
      fun q hq => filter_done q (hq true) _⟩
  | @running f | @stuck f =>
    refine ⟨f, way settings a f, List.prefix_rfl, fun q hq => ?_⟩
    rw [way_eq, List.filter_append, List.filter_append, filter_done q (hq true)]
  | @ready f =>
    exact ⟨f, way settings a f, List.prefix_rfl, fun q hq => filter_done q (hq true) _⟩
  | @failed f _ front step onWay =>
    refine ⟨f, front ++ [step], onWay, fun q hq => ?_⟩
    rw [List.filter_append, List.filter_append, filter_done q (hq true)]
    simp [List.filter_cons, hq]

/-- An attempt is ready when the whole way was done and nothing was missing. -/
theorem Charts.ready_iff {stage : Option Loading} (h : Charts settings a stage record) :
    stage = some (.ended none) ↔
      ∃ f : Findings, f.Complete ∧ record = done a (way settings a f) := by
  constructor
  · rintro rfl
    cases h with
    | ready complete => exact ⟨_, complete, rfl⟩
  · rintro ⟨f, -, hrecord⟩
    rw [done_way] at hrecord
    have hlast := congrArg List.getLast? hrecord
    cases h with
    | ready => rfl
    | queued =>
      rw [done_append] at hrecord
      have hadapt := (List.append_inj' hrecord rfl).2
      simp at hadapt
    | unborn | starting | appending | fetching | running | stuck | failed =>
      simp [-done_cons] at hlast

/-- An attempt has failed when its last step has. -/
theorem Charts.failed_iff {stage : Option Loading} (h : Charts settings a stage record) :
    (∃ fault, stage = some (.ended (some fault))) ↔
      record.getLast? = some (.settled a false) := by
  cases h with
  | failed => simp
  | ready => simp [done_way]
  | appending => simp [-done_cons]
  | unborn | starting | fetching | queued | running | stuck => simp

/-- What a failed attempt has on record: what it did, and the step that failed. -/
theorem Charts.of_failed {fault : Fault} (h : Charts settings a (some (.ended (some fault))) record) :
    ∃ (f : Findings) (front : List Deed) (step : Deed), front ++ [step] <+: way settings a f ∧
      (step.isLook → ¬step.Holds) ∧ record = done a front ++ [step, .settled a false] := by
  cases h with
  | failed onWay _ missed => exact ⟨_, _, _, onWay, missed, rfl⟩

/-- Nothing is bound or fetched by the steps that come before. -/
theorem prefix_of_isEarly (hway : front ++ [step] <+: way settings a f) (hs : step.isEarly) :
    front ++ [step] <+: .choose a f.means :: loads settings a f.means ++ [.seek a f.found] := by
  obtain ⟨rest, hrest⟩ := hway
  have hsplit : way settings a f =
      (.choose a f.means :: loads settings a f.means ++ [.seek a f.found]) ++
        [.bind a .rawBinding, .wrap a f.tensor, .bind a .utilsBinding, .fetch a, .adapt a] := by
    simp [way, approach]
  rw [hsplit] at hrest
  rcases List.append_eq_append_iff.mp hrest with ⟨more, hmore, -⟩ | ⟨more, hmore, hlate⟩
  · exact ⟨more, hmore.symm⟩
  · rcases List.eq_nil_or_concat more with rfl | ⟨more, last, rfl⟩
    · rw [List.append_nil] at hmore
      exact hmore ▸ List.prefix_rfl
    · rw [List.concat_eq_append, ← List.append_assoc] at hmore
      obtain rfl : step = last := by simpa using (List.append_inj' hmore rfl).2
      have hmem : step ∈ [Deed.bind a .rawBinding, .wrap a f.tensor, .bind a .utilsBinding,
          .fetch a, .adapt a] := by simp [hlate]
      simp only [List.mem_cons, List.not_mem_nil, or_false] at hmem
      rcases hmem with rfl | rfl | rfl | rfl | rfl <;> cases hs

theorem isEarly_of_mem {deed : Deed}
    (h : deed ∈ .choose a f.means :: loads settings a f.means ++ [.seek a f.found]) :
    deed.isEarly := by
  simp only [List.cons_append, List.mem_cons, List.mem_append, List.not_mem_nil, or_false] at h
  obtain rfl | h | rfl := h
  · rfl
  · obtain ⟨url, rfl⟩ | ⟨urls, rfl⟩ := mem_loads h <;> rfl
  · rfl

theorem mem_done {deed : Deed} {steps : List Deed} (h : deed ∈ done a steps) :
    deed ∈ steps ∨ deed = .settled a true := by
  obtain ⟨step, hstep, hdeed⟩ := List.mem_flatMap.mp h
  simp only [List.mem_cons, List.not_mem_nil, or_false] at hdeed
  exact hdeed.imp_left fun (e : deed = step) => e ▸ hstep

/-- A step that misses what it looks for is the last. -/
theorem Charts.missing {stage : Option Loading} (h : Charts settings a stage record) {deed : Deed}
    (hd : deed ∈ record) (hmissing : ¬deed.Holds) :
    (∃ fault, stage = some (.ended (some fault))) ∧
      ∃ front, record = done a front ++ [deed, .settled a false] := by
  have hdone {steps : List Deed} (hsteps : ∀ step ∈ steps, step.Holds) : deed ∉ done a steps := by
    intro hmem
    rcases mem_done hmem with hstep | rfl
    · exact hmissing (hsteps deed hstep)
    · exact hmissing trivial
  -- the last step on record may go on, if it looks for nothing
  have hlast {steps : List Deed} {last : Deed} (hsteps : ∀ step ∈ steps, step.Holds)
      (hl : last.Holds) : deed ∉ done a steps ++ [last] := by
    rw [List.mem_append, List.mem_singleton, not_or]
    exact ⟨hdone hsteps, fun e => hmissing (e ▸ hl)⟩
  have hfetch {f : Findings} (hf : f.Complete) :
      ∀ step ∈ approach settings a f ++ [.fetch a], step.Holds :=
    fun step hstep => hf.holds (way_eq settings a f ▸ List.mem_append_left _ hstep)
  cases h with
  | unborn | starting => exact absurd hd List.not_mem_nil
  | @appending front rest url turns urls =>
    refine absurd hd (hlast (List.forall_mem_cons.mpr ⟨nofun, fun step hstep => ?_⟩) trivial)
    obtain ⟨url, -, rfl⟩ := List.mem_map.mp hstep
    trivial
  | fetching complete =>
    exact absurd hd (hlast (fun step hstep => hfetch complete step (List.mem_append_left _ hstep))
      trivial)
  | queued complete => exact absurd hd (hdone (hfetch complete))
  | running complete | stuck complete => exact absurd hd (hlast (hfetch complete) trivial)
  | ready complete => exact absurd hd (hdone fun step => complete.holds)
  | @failed f fault front step onWay passed missed =>
    refine ⟨⟨fault, rfl⟩, front, ?_⟩
    simp only [List.mem_append, hdone passed, List.mem_cons, List.not_mem_nil, or_false,
      false_or] at hd
    rcases hd with rfl | rfl
    · rfl
    · exact absurd trivial hmissing

end Chunkwise.Session
