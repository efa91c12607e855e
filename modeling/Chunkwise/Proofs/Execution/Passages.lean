import Chunkwise.Execution.Source
import Chunkwise.Proofs.Execution.Evaluation
import Chunkwise.Proofs.Output.Episodes

/-!
What sources and probes leave behind. Everything that they write goes through the buffer, nothing is
pending in the end, and no names are bound but at the top that a source has for its own. A script
that writes straight to the standard output sends nothing.
-/
namespace Chunkwise

namespace Execution
open Store Output

variable {K : Address → Prop} {own : Address} {writer : Writer} {s₀ s : Scene}

/-- The record tells what was written and what was sent of it, and what was not is pending. -/
def Heard (writer : Writer) (s₀ s : Scene) : Prop :=
  ∃ (e : Episode) (pending : List Char), e.writer = writer ∧ s.pending = some pending ∧
    World.Hears s₀.world s.world e.record ∧
    (s₀.world.host.audience.IsOpen → Faithful e.marks pending)

/-- What code has left behind so far: it has bound names at one top only, and all that it has
written has gone through the buffer. -/
structure Spoken (K : Address → Prop) (own : Address) (writer : Writer) (s₀ s : Scene) : Prop where
  guarded : Guarded K s.store
  names : ∀ a, K a → a ≠ own → s.store.names a = s₀.store.names a
  heard : Heard writer s₀ s

/-- Code that writes straight to the standard output sends nothing. -/
structure Unspoken (K : Address → Prop) (own : Address) (s₀ s : Scene) : Prop where
  guarded : Guarded K s.store
  names : ∀ a, K a → a ≠ own → s.store.names a = s₀.store.names a
  pending : s.pending = none
  silent : World.Silent s₀.world s.world

theorem names_of_bound {store : Store} {a b : Address} (hb : b = own ∨ ¬K b) (ha : K a)
    (hne : a ≠ own) (f : Bindings → Bindings) : (store.mapNames b f).names a = store.names a := by
  refine names_mapNames_ne (fun hab => ?_) f
  subst hab
  exact hb.elim hne fun h => h ha

namespace Scene

@[simp] theorem send_store (text : String) (w : World) : (w.send text).2.store = w.store := by
  unfold World.send
  split <;> rfl

@[simp] theorem write_store (text : List Char) (s : Scene) : (s.write text).2.store = s.store := by
  unfold write
  split
  · rfl
  · exact forward_eq (f := World.store) send_store _ _ _

@[simp] theorem flush_store (s : Scene) : s.flush.2.store = s.store := by
  unfold flush
  split
  · rfl
  · exact flush_eq (f := World.store) send_store _ _

end Scene

theorem heard_opens (writer : Writer) (hp : s.pending = some []) : Heard writer s (s.opens writer) :=
  ⟨⟨writer, [], by simp⟩, [], rfl, hp, ⟨rfl, rfl⟩, fun _ => faithful_nil⟩

theorem Heard.write (h : Heard writer s₀ s) (text : List Char) :
    Heard writer s₀ (s.write text).2 := by
  obtain ⟨e, pending, hwriter, hp, hears, hfaithful⟩ := h
  have hmark := hears.trans (World.hears_mark (m := .wrote text) rfl s.world)
  simp only [Scene.write, hp, Output.write]
  by_cases hopen : s₀.world.host.audience.IsOpen
  · obtain ⟨lines, rest, w, hlines, hrest, htext, hforward, hears'⟩ :=
      forward_open (hmark.isOpen hopen) List.not_mem_nil (pending ++ text)
    rw [hforward]
    refine ⟨e.goesOn ((lines.map String.ofList).reverse.map .sent ++ [.wrote text]) (by simp), rest,
      hwriter, rfl, ?_, fun _ => ?_⟩
    · simpa [Episode.record, Episode.goesOn] using hmark.trans hears'
    · simpa [Episode.goesOn] using (hfaithful hopen).write hlines hrest htext
  · obtain ⟨texts, hears'⟩ := hears_forward [] (pending ++ text) (s.world.mark (.wrote text))
    refine ⟨e.goesOn (texts.map .sent ++ [.wrote text]) (by simp), _, hwriter, rfl, ?_,
      fun h => absurd h hopen⟩
    simpa [Episode.record, Episode.goesOn] using hmark.trans hears'

/-- All that was pending is handed on or refused. -/
theorem Heard.flush (h : Heard writer s₀ s) :
    Heard writer s₀ s.flush.2 ∧ s.flush.2.pending = some [] := by
  obtain ⟨e, pending, hwriter, hp, hears, hfaithful⟩ := h
  have hmark := hears.trans (World.hears_mark (m := .flushed) rfl s.world)
  simp only [Scene.flush, hp, Output.flush]
  split
  next hnil =>
    subst hnil
    refine ⟨⟨e.goesOn [.flushed] (by simp), [], hwriter, rfl, ?_, fun hopen => ?_⟩, rfl⟩
    · simpa [Episode.record, Episode.goesOn] using hmark
    · exact (hfaithful hopen).flush
  next hne =>
    refine ⟨?_, rfl⟩
    by_cases hopen : s₀.world.host.audience.IsOpen
    · have hsend := World.send_open (hmark.isOpen hopen) (String.ofList pending)
      have hflush := (hfaithful hopen).flush
      simp only [remainder, if_neg hne] at hflush
      refine ⟨e.goesOn [.sent (String.ofList pending), .flushed] (by simp), [], hwriter, rfl, ?_,
        fun _ => hflush⟩
      simpa [Episode.record, Episode.goesOn] using hmark.trans hsend.2
    · obtain ⟨texts, hears'⟩ := World.hears_send (String.ofList pending) (s.world.mark .flushed)
      refine ⟨e.goesOn (texts.map .sent ++ [.flushed]) (by simp), [], hwriter, rfl, ?_,
        fun h => absurd h hopen⟩
      simpa [Episode.record, Episode.goesOn] using hmark.trans hears'

/-- Nothing that matters to the output has changed. -/
theorem Heard.of_eq {s' : Scene} (h : Heard writer s₀ s) (hp : s'.pending = s.pending)
    (hr : s'.world.record = s.world.record) (ha : s'.world.host.audience = s.world.host.audience) :
    Heard writer s₀ s' := by
  obtain ⟨e, pending, hwriter, hpending, hears, hfaithful⟩ := h
  exact ⟨e, pending, hwriter, hp.trans hpending,
    by simpa using hears.trans (World.Silent.of_eq hr ha), hfaithful⟩

theorem closed_spoken : Closed K own (Spoken K own writer s₀) where
  guarded h := h.guarded
  spared h hs := ⟨hs.guarded, fun a ha hne => (hs.names a ha).trans (h.names a ha hne),
    h.heard.of_eq rfl rfl rfl⟩
  bound f h ha := ⟨h.guarded.mapNames _ f,
    fun b hb hne => (names_of_bound ha hb hne f).trans (h.names b hb hne),
    h.heard.of_eq rfl rfl rfl⟩
  written text h := ⟨by simpa using h.guarded, by simpa using h.names, h.heard.write text⟩
  flushed h := ⟨by simpa using h.guarded, by simpa using h.names, h.heard.flush.1⟩
  loaded _ h := ⟨h.guarded, h.names, h.heard.of_eq rfl rfl rfl⟩

theorem Unspoken.write (h : Unspoken K own s₀ s) (text : List Char) :
    Unspoken K own s₀ (s.write text).2 := by
  simp only [Scene.write, h.pending]
  exact ⟨h.guarded, h.names, rfl, h.silent.record, h.silent.audience⟩

theorem Unspoken.flush (h : Unspoken K own s₀ s) : Unspoken K own s₀ s.flush.2 := by
  rw [Scene.flush, h.pending]
  exact h

theorem closed_unspoken : Closed K own (Unspoken K own s₀) where
  guarded h := h.guarded
  spared h hs := ⟨hs.guarded, fun a ha hne => (hs.names a ha).trans (h.names a ha hne), h.pending,
    h.silent.record, h.silent.audience⟩
  bound f h ha := ⟨h.guarded.mapNames _ f,
    fun b hb hne => (names_of_bound ha hb hne f).trans (h.names b hb hne), h.pending,
    h.silent.record, h.silent.audience⟩
  written text h := h.write text
  flushed h := h.flush
  loaded _ h := ⟨h.guarded, h.names, h.pending, h.silent.record, h.silent.audience⟩

/-! Sources, scripts and probes. -/

variable {α : Type}

section

variable {ι : Type} {I : ι → Scene → Prop}

theorem Frame.apart_topFrame (file : String) : (topFrame own file).Apart K own :=
  ⟨.inl rfl, fun _ h => by simp [topFrame] at h⟩

theorem keeps_refuse (hI : ∀ x, Closed K own (I x)) (file : String) (complaint : Option Code.Complaint) :
    Eval.Keeps K I (refuse file complaint) := by
  cases complaint with
  | none => exact Eval.keeps_pure
  | some c => exact Eval.keeps_fail hI _

theorem keeps_addBuiltins (hI : ∀ x, Closed K own (I x)) : Eval.Keeps K I (addBuiltins own) :=
  fun x _ hs => ⟨(hI x).bound _ hs (.inl rfl), trivial⟩

theorem keeps_runStatements (hI : ∀ x, Closed K own (I x)) (file : String) (mayWait : Bool)
    (body : List Code.Stmt) : Eval.Keeps K I (runStatements own file mayWait body) :=
  (keeps_refuse hI _ _).bind fun _ => (keeps_addBuiltins hI).bind fun _ =>
    ((keepsAll hI (depth + 1)).blocks _ body (Frame.apart_topFrame file)).bind fun _ => Eval.keeps_pure

theorem keeps_evalTail (hI : ∀ x, Closed K own (I x)) (file : String) (tail : Option Code.Expr) :
    Eval.Keeps K I (evalTail own file tail) := by
  cases tail with
  | none => exact Eval.keeps_pure
  | some e =>
    exact (keeps_refuse hI _ _).bind fun _ => (keeps_addBuiltins hI).bind fun _ =>
      (keepsAll hI depth).eval _ e (Frame.apart_topFrame file)

theorem keeps_evalSource (hI : ∀ x, Closed K own (I x)) (file : Datum) (source : String) :
    Eval.Keeps K I (evalSource own file source) := by
  refine (Eval.keeps_ofExcept hI _).bind fun name => (Eval.keeps_ofExcept hI _).bind
    fun statements => ?_
  unfold evalChunk
  split
  · exact keeps_evalTail hI _ _
  · exact (keeps_runStatements hI _ _ _).bind fun _ => keeps_evalTail hI _ _

end

variable {I : Scene → Prop}

/-- An exception that leaves code keeps the places that it has passed; nothing else changes. -/
theorem outcome_error (α : Type) (raised : Raised) (hg : Guarded K s.store)
    (h : ¬K raised.exception) :
    ∃ fault store, outcome (.error raised : Except Raised α) s =
      (.error fault, { s with world := { s.world with store := store } }) ∧
        Spared K s.store store := by
  have hspared := ((spares_modifyException h fun e => { e with trace := raised.trace }).bind
    fun _ => Store.Action.spares_reading (·.report raised.exception)) s.store hg
  let action : Store.Action Fault := do
    modifyException raised.exception fun e => { e with trace := raised.trace }
    Store.Action.reading (·.report raised.exception)
  have hact : s.act action =
      ((action s.store).1, { s with world := { s.world with store := (action s.store).2 } }) := rfl
  unfold outcome
  dsimp only
  rw [hact]
  cases (action s.store).1 <;> exact ⟨_, _, rfl, hspared.1⟩

theorem kept_outcome (hI : Closed K own I) {result : Except Raised α} (hs : I s)
    (h : Sound K (fun _ => True) result) : I (outcome result s).2 := by
  cases result with
  | ok a => exact hs
  | error raised =>
    obtain ⟨fault, store, heq, hspared⟩ := outcome_error α raised (hI.guarded hs) h
    rw [heq]
    exact hI.spared hs hspared

theorem Run.All.finish {P : Scene → Prop} {Q : α → Scene → Prop} {r : Run α} {a : α}
    (h : r.All P Q) (hr : r.finish = some (a, s)) : Q a s := by
  induction r with
  | done a' s' =>
    obtain ⟨rfl, rfl⟩ := Prod.mk.inj (Option.some.inj hr)
    exact h
  | suspended s' resume ih => exact ih s' (h.2 () s' h.1) hr
  | exhausted => cases hr

theorem spoken_opens (writer : Writer) (hg : Guarded K s.store) (hp : s.pending = some []) :
    Spoken K own writer s (s.opens writer) :=
  ⟨hg, fun _ _ _ => rfl, heard_opens writer hp⟩

/-- What code has left of the world when nothing is pending. -/
theorem Spoken.leaves (h : Spoken K own writer s₀ s) (hp : s.pending = some []) :
    ∃ e : Episode, e.writer = writer ∧ World.Leaves K (some own) [e] s₀.world s.world := by
  obtain ⟨e, pending, hwriter, hpending, hears, hfaithful⟩ := h.heard
  obtain rfl : [] = pending := Option.some.inj (hp.symm.trans hpending)
  refine ⟨e, hwriter, h.guarded, fun a ha hne => h.names a ha (by simpa using hne), ?_, ?_⟩
  · rwa [told_singleton]
  · simpa using hfaithful

/-- A source binds names at its own top only, and in the end nothing that it wrote is pending. -/
theorem all_runChunk (file : Datum) (source : String) (hg : Guarded K s.store)
    (hp : s.pending = some []) :
    (runChunk own file source s).All (Spoken K own (.source source) s) fun _ s' =>
      Spoken K own (.source source) s s' ∧ s'.pending = some [] := by
  have hI : Closed K own (Spoken K own (.source source) s) := closed_spoken
  refine (keeps_evalSource (fun _ => hI) file source () _ (spoken_opens _ hg hp)).andThen
    fun _ result s₁ h => ?_
  have houtcome := kept_outcome hI h.1 h.2
  dsimp only
  generalize outcome result s₁ = out at houtcome
  obtain ⟨result, s₂⟩ := out
  have hflush := hI.flushed houtcome
  have hpending := houtcome.heard.flush.2
  dsimp only at hflush hpending ⊢
  generalize s₂.flush = flushed at hflush hpending
  obtain ⟨_ | fault, s₃⟩ := flushed <;> exact ⟨hflush, hpending⟩

theorem leaves_runChunk {file : Datum} {source : String} {result : Except Fault Value} {s' : Scene}
    (hg : Guarded K s.store) (hp : s.pending = some [])
    (h : (runChunk own file source s).finish = some (result, s')) :
    s'.pending = some [] ∧ ∃ e : Episode, e.writer = .source source ∧
      World.Leaves K (some own) [e] s.world s'.world := by
  obtain ⟨hspoken, hpending⟩ := (all_runChunk file source hg hp).finish h
  exact ⟨hpending, hspoken.leaves hpending⟩

/-- A source is no code that can be run. -/
def Unreadable (file : Datum) (source : String) : Prop :=
  ∀ name, fileName file = .ok name → ∃ fault, readSource name source = .error fault

/-- A source that cannot be read raises at once. -/
theorem evalSource_unread (own : Address) {file : Datum} {source : String}
    (h : Unreadable file source) :
    ∃ fault, evalSource own file source = Eval.fail fault := by
  unfold evalSource
  rcases hfile : fileName file with fault | name
  · exact ⟨fault, rfl⟩
  · obtain ⟨fault, hread⟩ := h name hfile
    refine ⟨fault, ?_⟩
    change (do evalChunk own name (isQuiet source) (← Eval.ofExcept (readSource name source))) = _
    rw [hread]
    rfl

/-- Nothing is run of a source that cannot be read: it binds nothing and writes nothing. -/
theorem runChunk_unread (own : Address) {file : Datum} {source : String} (hg : Guarded K s.store)
    (hp : s.pending = some []) (h : Unreadable file source) :
    ∃ fault s', runChunk own file source s = .done (.error fault) s' ∧
      (∀ a, K a → s'.store.names a = s.store.names a) ∧
      s'.world.record = [.flushed, .opened (.source source)] ++ s.world.record := by
  obtain ⟨fault, heval⟩ := evalSource_unread own h
  have hraise := hg.loadFault fault
  -- the exception of the fault is all that is added to the store
  let s₁ : Scene := { s.opens (.source source) with
    world := { (s.opens (.source source)).world with store := (s.store.loadFault fault).2 } }
  let raised : Raised := ⟨(s.store.loadFault fault).1, fault.trace⟩
  have hfail : evalSource own file source (s.opens (.source source)) = .done (.error raised) s₁ := by
    rw [heval]
    rfl
  obtain ⟨fault', store, hout, hspared⟩ :=
    outcome_error Value raised (s := s₁) hraise.guarded (hg.not_loadFault fault)
  have hflush : Scene.flush { s₁ with world := { s₁.world with store := store } } =
      (none, { s₁ with world := World.mark .flushed { s₁.world with store := store } }) := by
    have hp₁ : s₁.pending = some [] := hp
    simp [Scene.flush, hp₁, Output.flush]
  refine ⟨fault'.sealed, { s₁ with world := World.mark .flushed { s₁.world with store := store } }, ?_,
    fun a ha => (hspared.names a ha).trans (hraise.names a ha), rfl⟩
  simp only [runChunk, hfail, Run.andThen, hout, hflush]
  rfl

/-- A probe binds no names, and in the end nothing that module code wrote is pending. -/
theorem leaves_probe (root : String) (hg : Guarded K s.store) (hp : s.pending = some []) :
    (probe root s).2.pending = some [] ∧ ∃ e : Episode, e.writer = .probe root ∧
      World.Leaves K none [e] s.world (probe root s).2.world := by
  -- module code binds at no top: any address that is not kept can stand for it
  let own := s.store.objects.size
  have hown : ∀ a, K a → a ≠ own := fun a ha => Nat.ne_of_lt (hg.lt_size ha)
  have hI : Closed K own (Spoken K own (.probe root) s) := closed_spoken
  have hprobe := Scene.kept_probeModule hI root (spoken_opens (.probe root) hg hp)
  have hkept : Spoken K own (.probe root) s (probe root s).2 ∧
      (probe root s).2.pending = some [] := by
    unfold probe
    generalize (s.opens (.probe root)).probeModule root = probed at hprobe
    obtain ⟨result, s₁⟩ := probed
    have hflush := hI.flushed hprobe
    have hpending := hprobe.heard.flush.2
    dsimp only at hflush hpending ⊢
    generalize s₁.flush = flushed at hflush hpending
    obtain ⟨_ | fault, s₂⟩ := flushed <;> exact ⟨hflush, hpending⟩
  obtain ⟨e, hwriter, hleaves⟩ := hkept.1.leaves hkept.2
  refine ⟨hkept.2, e, hwriter, hleaves.guarded, fun a ha _ => ?_, hleaves.hears, hleaves.faithful⟩
  exact hleaves.names a ha (by simpa using hown a ha)

/-- The text of a script is code of the host. -/
theorem kept_runScript {s : Scene} (hI : Closed K Store.hostScope I) (hs : I s) (url : Datum)
    (source : String) : I (runScript url source s).2 := by
  have hscript : Eval.Keeps K (fun _ : Unit => I) (evalScript url source) :=
    (Eval.keeps_ofExcept (fun _ => hI) _).bind fun name =>
      (Eval.keeps_ofExcept (fun _ => hI) _).bind
        fun statements => keeps_runStatements (fun _ => hI) name false statements
  unfold runScript
  split
  next result s₁ hfinish =>
    have hend := Run.All.finish (hscript () s hs) hfinish
    have houtcome := kept_outcome hI hend.1 hend.2
    revert houtcome
    rcases outcome result s₁ with ⟨_ | _, s₂⟩ <;> exact id
  next => exact hs

/-- The text of a script binds names of the host only, and sends nothing. -/
theorem leaves_runScript (url : Datum) (source : String) (hg : Guarded K s.store)
    (hK : ¬K Store.hostScope) (hp : s.pending = none) :
    World.Leaves K none [] s.world (runScript url source s).2.world := by
  have hs : Unspoken K Store.hostScope s s := ⟨hg, fun _ _ _ => rfl, hp, .refl _⟩
  have hkept := kept_runScript closed_unspoken hs url source
  refine .of_silent hkept.guarded (fun a ha _ => hkept.names a ha ?_) hkept.silent
  rintro rfl
  exact hK ha

/-! What is left in the buffer. Code that writes into a buffer writes into it to the end, whatever else
happens meanwhile, and when a chunk or a probe is over the buffer is empty, however it ended and
whether the host took its output or not. -/

/-- Code writes into a buffer, not straight to the standard output. -/
def Buffered (s : Scene) : Prop :=
  s.pending ≠ none

theorem Buffered.write (h : Buffered s) (text : List Char) : Buffered (s.write text).2 := by
  obtain ⟨pending, hp⟩ := Option.ne_none_iff_exists'.mp h
  simp [Buffered, Scene.write, hp]

theorem Buffered.flush (h : Buffered s) : Buffered s.flush.2 := by
  obtain ⟨pending, hp⟩ := Option.ne_none_iff_exists'.mp h
  simp [Buffered, Scene.flush, hp]

/-- All that is pending is given up, even if the host refuses it. -/
theorem Buffered.pending_flush (h : Buffered s) : s.flush.2.pending = some [] := by
  obtain ⟨pending, hp⟩ := Option.ne_none_iff_exists'.mp h
  simp only [Scene.flush, hp, Output.flush]
  split <;> rfl

/-- No step of code parts with its buffer; no scope is kept for that. -/
theorem closed_buffered (own : Address) : Closed (fun _ => False) own Buffered where
  guarded _ := fun _ ha => ha.elim
  spared h _ := h
  bound _ h _ := h
  written text h := h.write text
  flushed h := h.flush
  loaded _ h := h

namespace Run

variable {α : Type}

/-- As long as others leave the buffer in place the run does, and in the end it is empty. -/
def Clears (r : Run α) : Prop :=
  r.All Buffered fun _ s => s.pending = some []

end Run

theorem clears_runChunk (file : Datum) (source : String) (h : Buffered s) :
    (runChunk own file source s).Clears := by
  have hopens : Buffered (s.opens (.source source)) := h
  refine (keeps_evalSource (fun _ => closed_buffered own) file source () _ hopens).andThen
    fun _ result s₁ hresult => ?_
  have houtcome := kept_outcome (closed_buffered own) hresult.1 hresult.2
  dsimp only
  generalize outcome result s₁ = out at houtcome
  obtain ⟨result, s₂⟩ := out
  have hpending := houtcome.pending_flush
  dsimp only at hpending ⊢
  generalize s₂.flush = flushed at hpending
  obtain ⟨_ | fault, s₃⟩ := flushed <;> exact hpending

theorem pending_probe (root : String) (h : Buffered s) : (probe root s).2.pending = some [] := by
  have hprobe : Buffered ((s.opens (.probe root)).probeModule root).2 :=
    Scene.kept_probeModule (closed_buffered 0) root h
  unfold probe
  generalize (s.opens (.probe root)).probeModule root = probed at hprobe
  obtain ⟨result, s₁⟩ := probed
  have hpending := hprobe.pending_flush
  dsimp only at hpending ⊢
  generalize s₁.flush = flushed at hpending
  obtain ⟨_ | fault, s₂⟩ := flushed <;> exact hpending

end Execution
end Chunkwise
