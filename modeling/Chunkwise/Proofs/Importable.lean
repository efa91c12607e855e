import Chunkwise.Execution.Source
import Mathlib.Tactic.Basic

/-!
Modules that are loaded. They are found by every probe, a probe that succeeds loads what it was
asked for, and no probe takes a module away.
-/
namespace Chunkwise

/-- The module of a name is loaded. -/
def World.knows (name : String) (w : World) : Prop :=
  (w.modules.get? name).isSome

/-- A name that can be imported from now on: its module is loaded. No module can be asked for by an
empty name, or by one that begins with a dot. -/
def World.canImport (name : String) (w : World) : Prop :=
  ¬(name = "" ∨ name.toList.head? = some '.') ∧ w.knows name

namespace Output

variable {σ β : Type} {deliver : Sink σ} {f : σ → β}

/-- What no delivery changes is the same after a text has been handed on. -/
theorem forward_eq (h : ∀ text s, f (deliver text s).2 = f s) (line text : List Char) (s : σ) :
    f (forward deliver line text s).2.2 = f s := by
  fun_induction forward deliver line text s with
  | case1 => rfl
  | case2 line rest s s' hs ih => rw [ih, ← h (String.ofList (line.reverse ++ ['\n'])) s, hs]
  | case3 line rest s fault s' hs => rw [← h (String.ofList (line.reverse ++ ['\n'])) s, hs]
  | case4 _ _ _ _ _ ih => exact ih

theorem flush_eq (h : ∀ text s, f (deliver text s).2 = f s) (pending : List Char) (s : σ) :
    f (flush deliver pending s).2.2 = f s := by
  unfold flush
  split
  · rfl
  · exact h _ _

end Output

namespace World

@[simp] theorem send_modules (text : String) (w : World) : (w.send text).2.modules = w.modules := by
  unfold send
  split <;> rfl

theorem knows_keepModule {name other : String} {m : Value} {w : World} :
    (w.keepModule name m).knows other ↔ name = other ∨ w.knows other := by
  simp only [knows, keepModule, Modules.keep, Modules.get?, Bindings.get?_set]
  split <;> simp_all

end World

namespace Execution

@[simp] theorem dotted_singleton (name : String) : Path.dotted [name] = name := by
  simp [Path.dotted]

theorem dotted_cons (name : String) {path : Path} (h : path ≠ []) :
    Path.dotted (name :: path) = path.dotted ++ "." ++ name := by
  simp [Path.dotted, String.intercalate_append_of_ne_nil, h]

/-- What has been read of a name is before the segment under way, behind a dot unless it is
empty. -/
theorem dotted_go (rest segment : List Char) (path : Path) :
    (Path.dotted (Path.ofDotted.go rest segment path)).toList =
      (if path = [] then [] else path.dotted.toList ++ ['.']) ++ segment.reverse ++ rest := by
  fun_induction Path.ofDotted.go rest segment path with
  | case1 segment path => by_cases h : path = [] <;> simp [h, dotted_cons]
  | case2 rest segment path ih =>
    rw [ih]
    by_cases h : path = [] <;> simp [h, dotted_cons]
  | case3 segment path c rest h ih => simp [ih]

/-- Joining the parts of a dotted name gives it back. -/
@[simp] theorem dotted_ofDotted (name : String) : (Path.ofDotted name).dotted = name := by
  apply String.toList_injective
  simp [Path.ofDotted, dotted_go]

theorem ofDotted_ne_nil (name : String) : Path.ofDotted name ≠ [] := by
  suffices h : ∀ rest segment path, Path.ofDotted.go rest segment path ≠ [] from h _ _ _
  intro rest segment path
  fun_induction Path.ofDotted.go rest segment path with
  | case1 => simp
  | case2 _ _ _ ih => exact ih
  | case3 _ _ _ _ _ ih => exact ih

namespace Scene

@[simp] theorem write_modules (text : List Char) (s : Scene) :
    (s.write text).2.world.modules = s.world.modules := by
  unfold write
  split
  · rfl
  · exact Output.forward_eq (f := World.modules) World.send_modules _ _ _

@[simp] theorem flush_modules (s : Scene) : s.flush.2.world.modules = s.world.modules := by
  unfold flush
  split
  · rfl
  · exact Output.flush_eq (f := World.modules) World.send_modules _ _

@[simp] theorem act_modules {α : Type} (action : Store.Action α) (s : Scene) :
    (s.act action).2.world.modules = s.world.modules := rfl

@[simp] theorem bindInside_modules (parent child : String) (v : Value) (s : Scene) :
    (s.bindInside parent child v).world.modules = s.world.modules := by
  unfold bindInside
  split <;> rfl

theorem knows_keepModule {path : Path} {m : Value} {s : Scene} {name : String} :
    (s.keepModule path m).world.knows name ↔ path.dotted = name ∨ s.world.knows name := by
  rw [← World.knows_keepModule (m := m)]
  unfold keepModule
  split
  · simp only [World.knows, bindInside_modules, mapWorld]
  · rfl

/-- Running the code of a module takes no module away, and loads it if nothing fails. -/
theorem loadModule_knows (path : Path) (s : Scene) :
    (∀ name, s.world.knows name → (s.loadModule path).2.world.knows name) ∧
      ((s.loadModule path).1 = none → (s.loadModule path).2.world.knows path.dotted) := by
  unfold loadModule
  split
  next => simp
  next code _ =>
    have hact := act_modules (makeModule path.dotted code.value) s
    revert hact
    rcases s.act (makeModule path.dotted code.value) with ⟨_ | m, s₁⟩
    · intro hact
      simp_all [World.knows]
    intro hact
    have hwrite := write_modules code.text.toList s₁
    revert hwrite
    rcases hw : s₁.write code.text.toList with ⟨_ | fault, s₂⟩ <;> intro hwrite <;>
      simp only [hw] at hwrite ⊢
    · split
      · simp_all [World.knows]
      · simp only [knows_keepModule, true_or, implies_true, and_true]
        intro name hname
        right
        simp_all [World.knows]
    · simp_all [World.knows]

theorem importModule_knows (path : Path) (s : Scene) :
    (∀ name, s.world.knows name → (s.importModule path).2.world.knows name) ∧
      (path ≠ [] → (s.importModule path).1 = none →
        (s.importModule path).2.world.knows path.dotted) := by
  fun_induction importModule path s with
  | case1 => simp
  | case2 name s h => exact ⟨fun _ h => h, fun _ _ => by rw [dotted_singleton]; exact h⟩
  | case3 name s h => exact ⟨(loadModule_knows _ s).1, fun _ => (loadModule_knows _ s).2⟩
  | case4 inner parent outer s path h => exact ⟨fun _ h => h, fun _ _ => h⟩
  | case5 inner parent outer s path h fault s' hs ih => simp_all
  | case6 inner parent outer s path h s' hs h' ih =>
    exact ⟨by simp_all, fun _ _ => h'⟩
  | case7 inner parent outer s path h s' hs parentName h' hp ih =>
    have hload := loadModule_knows path s'
    exact ⟨fun name hn => hload.1 name (by simp_all), fun _ => hload.2⟩
  | case8 inner parent outer s path h s' hs parentName h' hp ih => simp_all

theorem importModule_of_knows {path : Path} {s : Scene} (h : s.world.knows path.dotted) :
    s.importModule path = (none, s) := by
  unfold importModule
  split
  · rfl
  · rw [dotted_singleton] at h
    exact if_pos h
  · exact if_pos h

/-- What probing a name tells of it: a name that can be imported is found, and one that is found can
be imported from then on. -/
theorem probeModule_canImport (root : String) (s : Scene) :
    (∀ name, s.world.canImport name → (s.probeModule root).2.world.canImport name) ∧
      (s.world.canImport root → (s.probeModule root).1 = .ok true) ∧
      ((s.probeModule root).1 = .ok true → (s.probeModule root).2.world.canImport root) := by
  have himport := importModule_knows (Path.ofDotted root) s
  unfold probeModule
  split
  next hroot => simp [World.canImport, hroot]
  next hroot =>
    refine ⟨fun name h => ⟨h.1, ?_⟩, fun h => ?_, fun h => ⟨hroot, ?_⟩⟩
    · have := himport.1 name h.2
      split <;> simp_all
    · rw [importModule_of_knows (by simpa using h.2)]
    · have hloaded := himport.2 (ofDotted_ne_nil root)
      split at h
      next heq => simpa [heq] using hloaded
      next fault _ heq => cases hk : fault.kind.isOrdinary <;> simp [hk] at h

end Scene

/-- What probing a name tells of it, when what its code wrote has been handed on. -/
theorem probe_canImport (root : String) (s : Scene) :
    (∀ name, s.world.canImport name → (probe root s).2.world.canImport name) ∧
      (s.world.canImport root → (probe root s).1 ≠ .ok false) ∧
      ((probe root s).1 = .ok true → (probe root s).2.world.canImport root) := by
  have h := (s.opens (.probe root)).probeModule_canImport root
  have hopens : (s.opens (.probe root)).world.modules = s.world.modules := rfl
  unfold probe
  rcases hp : (s.opens (.probe root)).probeModule root with ⟨result, s'⟩
  have hflush := s'.flush_modules
  rcases hf : s'.flush with ⟨_ | fault, s''⟩ <;>
    simp only [hp, hf] at h hflush ⊢ <;>
    simp_all [World.canImport, World.knows]

end Execution

end Chunkwise
