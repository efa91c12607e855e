import Chunkwise.Bridge.Adapters
import Chunkwise.Bridge.Scripts
import Chunkwise.Interpreter.Basic
import Chunkwise.Proofs.Execution.Passages

/-!
What the steps of an evaluation that run no chunk leave of the world. Notes, requests and installs
bind nothing and send nothing; scripts bind names of the host only.
-/
namespace Chunkwise.World
open Store Output Execution

variable {K : Address → Prop} {own : Option Address} {w : World}

/-- Nothing but the journal and what is asked of the outside world has changed. -/
theorem leaves_of_eq {w' : World} (hg : Guarded K w.store) (hs : w'.store = w.store)
    (hr : w'.record = w.record) (ha : w'.host.audience = w.host.audience) :
    Leaves K own [] w w' :=
  .of_silent (hs ▸ hg) (fun a _ _ => by rw [hs]) (.of_eq hr ha)

/-- The store has changed, and the scopes kept are spared. -/
theorem leaves_of_spared {w' : World} (hs : Spared K w.store w'.store)
    (hr : w'.record = w.record) (ha : w'.host.audience = w.host.audience) :
    Leaves K own [] w w' :=
  .of_silent hs.guarded (fun a hk _ => hs.names a hk) (.of_eq hr ha)

/-- A world in which more has been noted. -/
def noting (entries : List Entry) (w : World) : World :=
  { w with journal := w.journal ++ entries }

theorem leaves_noting (hg : Guarded K w.store) (entries : List Entry) :
    Leaves K own [] w (w.noting entries) :=
  leaves_of_eq hg rfl rfl rfl

theorem leaves_fetch (hg : Guarded K w.store) (url timeout : Datum) (blocking : Bool) :
    Leaves K own [] w (w.fetch url timeout blocking).2 :=
  leaves_of_eq hg rfl rfl rfl

theorem leaves_act {α : Type} {action : Store.Action α} (hg : Guarded K w.store)
    (h : Store.Action.Spares K action) : Leaves K own [] w (w.act action).2 :=
  leaves_of_spared (h w.store hg).1 rfl rfl

/-! Scripts. -/

theorem spared_make (library : Library) {store : Store} (hg : Guarded K store) :
    Spared K store (library.make store).2 := by
  cases library
  case null | zero => exact hg.refl
  all_goals exact hg.add _

theorem spared_mapNames {a : Address} {store : Store} (hg : Guarded K store) (ha : ¬K a)
    (f : Bindings → Bindings) : Spared K store (store.mapNames a f) :=
  ⟨hg.mapNames a f, fun b hb => names_mapNames_ne (fun hab : a = b => ha (hab ▸ hb)) f⟩

/-- Steps one after another spare the scopes kept if each does. -/
theorem spared_foldl {β : Type} {f : Store → β → Store}
    (hf : ∀ store b, Guarded K store → Spared K store (f store b)) (items : List β) {store : Store}
    (hg : Guarded K store) : Spared K store (items.foldl f store) := by
  induction items generalizing store with
  | nil => exact hg.refl
  | cons b items ih =>
    have hb := hf store b hg
    exact hb.trans (ih hb.guarded)

/-- A script binds names of the host only. -/
theorem spared_apply (script : Script) {store : Store} (hg : Guarded K store)
    (hK : ¬K hostScope) : Spared K store (script.apply store) := by
  have hadded : Spared K store
      (script.register.foldl (fun store entry => bindLibrary store entry.1 entry.2) store) := by
    refine spared_foldl (fun store entry hg => ?_) _ hg
    have hmake := spared_make entry.2 hg
    unfold bindLibrary
    exact hmake.trans (spared_mapNames hmake.guarded hK _)
  exact hadded.trans
    (spared_foldl (fun store name hg => spared_mapNames hg hK _) _ hadded.guarded)

theorem leaves_loadScript (hg : Guarded K w.store) (hK : ¬K hostScope) (url : Datum) :
    Leaves K own [] w (w.loadScript url).2 := by
  unfold loadScript
  dsimp only
  split
  · exact .refl hg
  · exact leaves_of_spared (spared_apply _ hg hK) rfl rfl

/-- Loads a script as the host does while nothing runs: it looks it up, or fetches and runs it. -/
def importScript (timeout : Datum) : Bridge.Load World := fun url w =>
  if w.host.runsScripts then
    match w.fetch url timeout true with
    | (.error fault, w) => (some fault, w)
    | (.ok source, w) =>
      match runScript url source { pending := none, world := w } with
      | (fault, scene) => (fault, scene.world)
  else w.loadScript url

theorem leaves_importScript (hg : Guarded K w.store) (hK : ¬K hostScope) (timeout url : Datum) :
    Leaves K none [] w (importScript timeout url w).2 := by
  unfold importScript
  split
  · have hfetch : Leaves K none [] w (w.fetch url timeout true).2 := leaves_fetch hg _ _ _
    revert hfetch
    rcases w.fetch url timeout true with ⟨_ | source, w'⟩ <;> intro hfetch
    · exact hfetch
    · have hscript := leaves_runScript (s := { pending := none, world := w' }) url source
        hfetch.guarded hK rfl
      exact hfetch.trans hscript
  · exact leaves_loadScript hg hK url

/-- Loads in order leave what each load leaves. -/
theorem leaves_loadInOrder {load : Bridge.Load World}
    (h : ∀ url w, Guarded K w.store → Leaves K own [] w (load url w).2) (urls : List Datum)
    (hg : Guarded K w.store) : Leaves K own [] w (Bridge.loadInOrder load urls w).2 :=
  Bridge.loadInOrder_keeps (fun url w' hw => hw.trans (h url w' hw.guarded)) urls (.refl hg)

/-! Packages. -/

theorem leaves_provide (names : List String) (hg : Guarded K w.store) :
    Leaves K own [] w (w.provide names) := by
  unfold provide
  induction names generalizing w with
  | nil => exact .refl hg
  | cons name names ih =>
    have hone : Leaves K own [] w (w.provideOne name) := leaves_of_spared (hg.add _) rfl rfl
    exact hone.trans (ih hone.guarded)

theorem leaves_settleInstall (result : Installed) (hg : Guarded K w.store) :
    Leaves K own [] w (settleInstall result w).2 := by
  cases result with
  | ok names => exact leaves_provide names hg
  | error fault => exact .refl hg

theorem leaves_install (packages : List String) (hg : Guarded K w.store) :
    Leaves K own [] w (w.install packages).2 := by
  have hsettle {w' : World} (result : Installed) (h : Leaves K own [] w w') :
      Leaves K own [] w (settleInstall result w').2 :=
    h.trans (leaves_settleInstall result h.guarded)
  unfold install
  split
  · exact .refl hg
  · exact hsettle _ (leaves_of_eq hg rfl rfl rfl)
  · exact hsettle _ (leaves_of_eq hg rfl rfl rfl)

theorem leaves_prepareInstaller (hg : Guarded K w.store) :
    Leaves K own [] w w.prepareInstaller.2 := by
  unfold prepareInstaller
  split
  · exact .refl hg
  · exact leaves_of_eq hg rfl rfl rfl
  · exact leaves_of_eq hg rfl rfl rfl

/-! Interpreters. -/

/-- A new interpreter binds names where nothing was before. -/
theorem leaves_make (hg : Guarded K w.store) : Leaves K own [] w (Interpreter.make w).2 :=
  leaves_of_spared (hg.add _) rfl rfl

theorem make_globals (w : World) : (Interpreter.make w).1.globals = w.store.objects.size := rfl

theorem scope?_make (w : World) :
    ((Interpreter.make w).2.store.scope? (Interpreter.make w).1.globals).isSome := by
  simp [Interpreter.make, World.add, Store.add, scope?, nature?, get?]

theorem leaves_bind {it : Interpreter} (hg : Guarded K w.store) (name : String) (v : Value) :
    Leaves K (some it.globals) [] w (it.bind name v w) := by
  refine .of_silent (hg.mapNames _ _) (fun a _ hne => names_mapNames_ne ?_ _) (.of_eq rfl rfl)
  rintro rfl
  exact hne rfl

/-- What is bound for chunks is bound where an interpreter binds their names. -/
theorem names_bind {it : Interpreter} (h : (w.store.scope? it.globals).isSome) (name : String)
    (v : Value) : it.names (it.bind name v w) = (it.names w).set name v :=
  names_mapNames h _

/-- A source that is run to its end. -/
theorem leaves_run {it it' : Interpreter} {file : Datum} {source : String} {w' : World}
    {result : Except Fault Value} (hg : Guarded K w.store) (hp : it.pending = [])
    (h : it.run file source w = some (result, it', w')) :
    it' = it ∧ ∃ e : Episode, e.writer = .source source ∧
      Leaves K (some it.globals) [e] w w' := by
  unfold Interpreter.run at h
  obtain ⟨⟨result', s'⟩, hfinish, heq⟩ := Option.map_eq_some_iff.1 h
  simp only [Prod.mk.injEq] at heq
  obtain ⟨rfl, rfl, rfl⟩ := heq
  have hpending : (it.scene w).pending = some [] := by simp [Interpreter.scene, hp]
  obtain ⟨hp', e, hwriter, hleaves⟩ := leaves_runChunk (s := it.scene w) hg hpending hfinish
  refine ⟨?_, e, hwriter, hleaves⟩
  simp [Interpreter.leftBy, hp', ← hp]

/-- A source that cannot be read is not run: it fails, binds nothing and writes nothing. -/
theorem run_unread {it it' : Interpreter} {file : Datum} {source : String} {w' : World}
    {result : Except Fault Value} (hg : Guarded K w.store) (hp : it.pending = [])
    (hunread : Unreadable file source) (h : it.run file source w = some (result, it', w')) :
    ∃ fault, result = .error fault ∧ (∀ a, K a → w'.store.names a = w.store.names a) ∧
      w'.record = [.flushed, .opened (.source source)] ++ w.record := by
  have hpending : (it.scene w).pending = some [] := by simp [Interpreter.scene, hp]
  obtain ⟨fault, s', hrun, hnames, hrecord⟩ :=
    runChunk_unread it.globals (s := it.scene w) hg hpending hunread
  unfold Interpreter.run at h
  rw [hrun] at h
  simp only [Run.finish, Option.map_some, Option.some.injEq, Prod.mk.injEq] at h
  obtain ⟨rfl, -, rfl⟩ := h
  exact ⟨fault, rfl, hnames, hrecord⟩

theorem run_ne_none {it : Interpreter} {file : Datum} {source : String} (hp : it.pending = [])
    (hunread : Unreadable file source) : it.run file source w ≠ none := by
  have hpending : (it.scene w).pending = some [] := by simp [Interpreter.scene, hp]
  have hnothing : Guarded (fun _ => False) w.store := fun _ h => h.elim
  obtain ⟨fault, s', hrun, -⟩ :=
    runChunk_unread it.globals (s := it.scene w) hnothing hpending hunread
  unfold Interpreter.run
  rw [hrun]
  simp [Run.finish]

theorem leaves_probing {it : Interpreter} (root : String) (hg : Guarded K w.store)
    (hp : it.pending = []) :
    (it.probe root w).2.1 = it ∧ ∃ e : Episode, e.writer = .probe root ∧
      Leaves K none [e] w (it.probe root w).2.2 := by
  have hpending : (it.scene w).pending = some [] := by simp [Interpreter.scene, hp]
  obtain ⟨hp', e, hwriter, hleaves⟩ := leaves_probe root (s := it.scene w) hg hpending
  refine ⟨?_, e, hwriter, hleaves⟩
  change it.leftBy (probe root (it.scene w)).2 = it
  simp [Interpreter.leftBy, hp', ← hp]

end Chunkwise.World
