import Chunkwise.Execution.Frame
import Chunkwise.Execution.Imports
import Chunkwise.Proofs.Store.Spares

/-!
What code keeps. A property of scenes that none of the steps of code can break holds wherever code
lets others take a turn, as long as these leave it so, and in the end; and an exception that code
raises is at none of the addresses kept. Of several such properties code keeps the one that holds
when it goes on: others may leave it with any of them.
-/
namespace Chunkwise.Execution
open Store Store.Action

variable {α β γ ι : Type} {K : Address → Prop} {own : Address} {I : ι → Scene → Prop}

namespace Run

/-- One of several properties holds wherever the run lets others take a turn, if it does each time
the run goes on, and another in the end. -/
def Always (P : ι → Scene → Prop) (Q : ι → α → Scene → Prop) : ι → Run α → Prop
  | x, .done a s => Q x a s
  | x, .suspended s resume => P x s ∧ ∀ y s', P y s' → (resume s').Always P Q y
  | _, .exhausted => True

/-- A single property holds wherever the run lets others take a turn, and another in the end. -/
abbrev All (P : Scene → Prop) (Q : α → Scene → Prop) (r : Run α) : Prop :=
  r.Always (fun _ : Unit => P) (fun _ => Q) ()

variable {P : ι → Scene → Prop} {Q Q' : ι → α → Scene → Prop} {r : Run α} {x : ι}

theorem Always.andThen {Q' : ι → β → Scene → Prop} {next : α → Scene → Run β}
    (h : r.Always P Q x) (hnext : ∀ y a s, Q y a s → (next a s).Always P Q' y) :
    (r.andThen next).Always P Q' x := by
  induction r generalizing x with
  | done a s => exact hnext x a s h
  | suspended s resume ih => exact ⟨h.1, fun y s' hs => ih s' (h.2 y s' hs)⟩
  | exhausted => trivial

theorem Always.mono (h : r.Always P Q x) (himp : ∀ y a s, Q y a s → Q' y a s) :
    r.Always P Q' x := by
  induction r generalizing x with
  | done a s => exact himp x a s h
  | suspended s resume ih => exact ⟨h.1, fun y s' hs => ih s' (h.2 y s' hs)⟩
  | exhausted => trivial

end Run

/-- Nothing that code does breaks a property of scenes: code binds names at one address, and else
only in scopes that are not kept. -/
structure Closed (K : Address → Prop) (own : Address) (I : Scene → Prop) : Prop where
  guarded : ∀ {s}, I s → Guarded K s.store
  spared : ∀ {s store}, I s → Spared K s.store store →
    I { s with world := { s.world with store := store } }
  bound : ∀ {s a} (f : Bindings → Bindings), I s → a = own ∨ ¬K a →
    I { s with world := { s.world with store := s.store.mapNames a f } }
  written : ∀ {s} (text : List Char), I s → I (s.write text).2
  flushed : ∀ {s}, I s → I s.flush.2
  loaded : ∀ {s} (modules : World.Modules), I s →
    I { s with world := { s.world with modules := modules } }

/-- What a computation gives is as it should be, and what it raises is at no address kept. -/
def Sound (K : Address → Prop) (post : α → Prop) : Except Raised α → Prop
  | .ok a => post a
  | .error raised => ¬K raised.exception

namespace Eval

/-- A computation keeps each of several properties of scenes, and what it gives is as it should
be. -/
def Gives (K : Address → Prop) (I : ι → Scene → Prop) (m : Eval α) (post : α → Prop) : Prop :=
  ∀ x s, I x s → (m s).Always I (fun y result s' => I y s' ∧ Sound K post result) x

/-- A computation keeps each of several properties of scenes. -/
abbrev Keeps (K : Address → Prop) (I : ι → Scene → Prop) (m : Eval α) : Prop :=
  Gives K I m fun _ => True

variable {post : α → Prop} {post' : β → Prop}

theorem Gives.mono {m : Eval α} {weaker : α → Prop} (h : Gives K I m post)
    (himp : ∀ a, post a → weaker a) : Gives K I m weaker := by
  intro x s hs
  refine (h x s hs).mono fun _ result s' hr => ⟨hr.1, ?_⟩
  cases result with
  | ok a => exact himp a hr.2
  | error raised => exact hr.2

theorem Gives.keeps {m : Eval α} (h : Gives K I m post) : Keeps K I m :=
  h.mono fun _ _ => trivial

theorem gives_give {a : α} (h : post a) : Gives K I (give a) post :=
  fun _ _ hs => ⟨hs, h⟩

theorem keeps_give {a : α} : Keeps K I (give a) :=
  gives_give trivial

theorem gives_pure {a : α} (h : post a) : Gives K I (pure a : Eval α) post :=
  gives_give h

theorem keeps_pure {a : α} : Keeps K I (pure a : Eval α) :=
  gives_give trivial

theorem Gives.bind {m : Eval α} {next : α → Eval β} (h : Gives K I m post)
    (hnext : ∀ a, post a → Gives K I (next a) post') : Gives K I (m >>= next) post' := by
  intro x s hs
  refine (h x s hs).andThen fun y result s' hr => ?_
  cases result with
  | ok a => exact hnext a hr.2 y s' hr.1
  | error raised => exact ⟨hr.1, hr.2⟩

theorem Keeps.bind {m : Eval α} {next : α → Eval β} (h : Keeps K I m)
    (hnext : ∀ a, Gives K I (next a) post') : Gives K I (m >>= next) post' :=
  Gives.bind h fun a _ => hnext a

theorem Keeps.map {m : Eval α} (f : α → β) (h : Keeps K I m) : Keeps K I (f <$> m) :=
  h.bind fun _ => keeps_pure

theorem gives_throw {raised : Raised} (h : ¬K raised.exception) :
    Gives K I (throw raised : Eval α) post :=
  fun _ _ hs => ⟨hs, h⟩

/-- A fault of a step is raised as an exception of its own. -/
theorem gives_step (hI : ∀ x, Closed K own (I x)) {f : Scene → Except Fault α × Scene}
    (h : ∀ x s, I x s → I x (f s).2 ∧ ∀ a, (f s).1 = .ok a → post a) : Gives K I (step f) post := by
  intro x s hs
  have hf := h x s hs
  unfold step
  rcases hr : f s with ⟨fault | a, s'⟩ <;> rw [hr] at hf
  · have hload := ((hI x).guarded hf.1).loadFault fault
    exact ⟨(hI x).spared hf.1 hload, ((hI x).guarded hf.1).not_loadFault fault⟩
  · exact ⟨hf.1, hf.2 a rfl⟩

theorem gives_act (hI : ∀ x, Closed K own (I x)) {action : Store.Action α}
    (h : Action.Gives K action post) : Gives K I (act action) post :=
  gives_step hI fun x s hs =>
    have hact := h s.store ((hI x).guarded hs)
    ⟨(hI x).spared hs hact.1, hact.2⟩

theorem keeps_act (hI : ∀ x, Closed K own (I x)) {action : Store.Action α} (h : Spares K action) :
    Keeps K I (act action) :=
  gives_act hI h

theorem gives_fail (hI : ∀ x, Closed K own (I x)) (fault : Fault) : Gives K I (fail fault : Eval α) post :=
  gives_step hI fun _ _ hs => ⟨hs, fun _ ha => by simp at ha⟩

theorem keeps_fail (hI : ∀ x, Closed K own (I x)) (fault : Fault) : Keeps K I (fail fault : Eval α) :=
  gives_fail hI fault

theorem keeps_ofExcept (hI : ∀ x, Closed K own (I x)) (result : Except Fault α) :
    Keeps K I (ofExcept result) := by
  cases result with
  | ok a => exact keeps_give
  | error fault => exact keeps_fail hI fault

theorem Gives.attempt {m : Eval α} (h : Gives K I m post) :
    Gives K I (Eval.attempt m) (Sound K post) :=
  fun x s hs => (h x s hs).andThen fun _ _ _ hr => ⟨hr.1, hr.2⟩

theorem gives_ofResult {result : Except Raised α} (h : Sound K post result) :
    Gives K I (ofResult result) post := by
  cases result with
  | ok a => exact gives_give h
  | error raised => exact gives_throw h

/-- A computation that raises passes a place on its way out. -/
theorem Gives.here {m : Eval α} (h : Gives K I m post) (frame : Frame) (pos : Code.Pos) :
    Gives K I (frame.here pos m) post := by
  intro x s hs
  refine (h x s hs).andThen fun y result s' hr => ⟨hr.1, ?_⟩
  cases result with
  | ok a => exact hr.2
  | error raised => exact hr.2

theorem Keeps.here {m : Eval α} (h : Keeps K I m) (frame : Frame) (pos : Code.Pos) :
    Keeps K I (frame.here pos m) :=
  Gives.here h frame pos

theorem keeps_turn : Keeps K I turn :=
  fun _ _ hs => ⟨hs, fun _ _ hs' => ⟨hs', trivial⟩⟩

theorem keeps_exhausted : Gives K I (exhausted : Eval α) post :=
  fun _ _ _ => trivial

theorem keeps_rounds {round : α → Eval (α ⊕ β)} (h : ∀ a, Keeps K I (round a)) (n : Nat) (a : α) :
    Keeps K I (rounds round n a) := by
  induction n generalizing a with
  | zero => exact keeps_exhausted
  | succ n ih =>
    rw [rounds_succ]
    refine (h a).bind fun result => ?_
    cases result with
    | inl a' => exact ih a'
    | inr b => exact keeps_give

theorem keeps_read (f : Scene → α) : Keeps K I (read f) :=
  fun _ _ hs => ⟨hs, trivial⟩

theorem gives_look (hI : ∀ x, Closed K own (I x)) (f : Store → α) :
    Gives K I (look f) fun a => ∃ store, Guarded K store ∧ a = f store :=
  fun x s hs => ⟨hs, s.store, (hI x).guarded hs, rfl⟩

theorem keeps_look (f : Store → α) : Keeps K I (look f) :=
  fun _ _ hs => ⟨hs, trivial⟩

theorem keeps_check (hI : ∀ x, Closed K own (I x)) (f : Store → Except Fault α) : Keeps K I (check f) :=
  fun x s hs => keeps_ofExcept hI (f s.store) x s hs

theorem keeps_perform (hI : ∀ x, Closed K own (I x)) {f : Scene → Option Fault × Scene}
    (h : ∀ x s, I x s → I x (f s).2) : Keeps K I (perform f) := by
  refine gives_step hI fun x s hs => ⟨?_, fun _ _ => trivial⟩
  have hf := h x s hs
  rcases hr : f s with ⟨_ | fault, s'⟩ <;> rw [hr] at hf <;> exact hf

theorem keeps_write (hI : ∀ x, Closed K own (I x)) (text : String) : Keeps K I (write text) :=
  keeps_perform hI fun x _ hs => (hI x).written _ hs

theorem keeps_keepTrace (hI : ∀ x, Closed K own (I x)) {raised : Raised} (h : ¬K raised.exception) :
    Keeps K I (keepTrace raised) :=
  fun x _ hs => ⟨(hI x).spared hs (((hI x).guarded hs).setNature h), trivial⟩

theorem gives_raiseAgain {a : Address} (h : ¬K a) : Gives K I (raiseAgain a : Eval α) post :=
  (keeps_look _).bind fun _ => gives_throw h

end Eval

/-! Importing. -/

namespace Scene

variable {I : Scene → Prop}

theorem kept_bindInside (hI : Closed K own I) (parent child : String) (v : Value) {s : Scene}
    (hs : I s) : I (s.bindInside parent child v) := by
  unfold bindInside
  split
  next a _ => exact hI.spared hs ((hI.guarded hs).modifyAttributes a fun _ => rfl)
  next => exact hs

theorem kept_keepModule (hI : Closed K own I) (path : Path) (m : Value) {s : Scene} (hs : I s) :
    I (s.keepModule path m) := by
  have hkept : I (s.mapWorld (·.keepModule path.dotted m)) := hI.loaded _ hs
  unfold keepModule
  split
  · exact kept_bindInside hI _ _ _ hkept
  · exact hkept

theorem kept_loadModule (hI : Closed K own I) (path : Path) {s : Scene} (hs : I s) :
    I (s.loadModule path).2 := by
  unfold loadModule
  split
  next => exact hs
  next code _ =>
    have hmake : Spares K (makeModule path.dotted code.value) := by
      have hload : Spares K (Action.load code.value) :=
        fun _ hg => ⟨hg.load code.value, fun _ _ => trivial⟩
      exact hload.bind fun _ => spares_make _
    have hact : I (s.act (makeModule path.dotted code.value)).2 :=
      hI.spared hs (hmake s.store (hI.guarded hs)).1
    revert hact
    rcases s.act (makeModule path.dotted code.value) with ⟨_ | m, s₁⟩ <;> intro hact
    · exact hact
    · have hwrite := hI.written code.text.toList hact
      dsimp only
      revert hwrite
      rcases s₁.write code.text.toList with ⟨_ | fault, s₂⟩ <;> intro hwrite
      · dsimp only
        split
        · exact hwrite
        · exact kept_keepModule hI path m hwrite
      · exact hwrite

theorem kept_importModule (hI : Closed K own I) (path : Path) {s : Scene} (hs : I s) :
    I (s.importModule path).2 := by
  fun_induction importModule path s with
  | case1 => exact hs
  | case2 => exact hs
  | case3 => exact kept_loadModule hI _ hs
  | case4 => exact hs
  | case5 inner parent outer s path h fault s' himport ih =>
    have hparent := ih hs
    rwa [himport] at hparent
  | case6 inner parent outer s path h s' himport h' ih =>
    have hparent := ih hs
    rwa [himport] at hparent
  | case7 inner parent outer s path h s' himport parentName h' hp ih =>
    have hparent := ih hs
    rw [himport] at hparent
    exact kept_loadModule hI _ hparent
  | case8 inner parent outer s path h s' himport parentName h' hp ih =>
    have hparent := ih hs
    rwa [himport] at hparent

theorem kept_probeModule (hI : Closed K own I) (name : String) {s : Scene} (hs : I s) :
    I (s.probeModule name).2 := by
  have himport := kept_importModule hI (Path.ofDotted name) hs
  unfold probeModule
  split
  · exact hs
  · revert himport
    rcases s.importModule (Path.ofDotted name) with ⟨_ | fault, s'⟩ <;> exact id

end Scene

end Chunkwise.Execution
