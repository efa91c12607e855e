import Chunkwise.Interpreter.Basic
import Chunkwise.Proofs.Execution.Passages

/-!
Code leaves the installer alone, whatever others do with it while they have the turn. So do probes,
scripts, the end of an interpreter and all that is handed to the host.
-/
namespace Chunkwise

namespace World

@[simp] theorem send_installer (text : String) (w : World) :
    (w.send text).2.installer = w.installer := by
  unfold send
  split <;> rfl

theorem installer_of_act {α : Type} {action : Store.Action α} {w w' : World}
    {result : Except Fault α} (h : w.act action = (result, w')) : w'.installer = w.installer := by
  obtain rfl := congrArg Prod.snd h
  rfl

theorem installer_of_fetch {url timeout : Datum} {blocking : Bool} {w w' : World}
    {result : Except Fault String} (h : w.fetch url timeout blocking = (result, w')) :
    w'.installer = w.installer := by
  obtain rfl := congrArg Prod.snd h
  rfl

theorem loadScript_installer (url : Datum) (w : World) :
    (w.loadScript url).2.installer = w.installer := by
  unfold loadScript
  dsimp only
  split <;> rfl

end World

namespace Execution

@[simp] theorem Scene.write_installer (text : List Char) (s : Scene) :
    (s.write text).2.world.installer = s.world.installer := by
  unfold Scene.write
  split
  · rfl
  · exact Output.forward_eq (f := World.installer) World.send_installer _ _ _

@[simp] theorem Scene.flush_installer (s : Scene) :
    s.flush.2.world.installer = s.world.installer := by
  unfold Scene.flush
  split
  · rfl
  · exact Output.flush_eq (f := World.installer) World.send_installer _ _

/-- No step of code changes the installer; no scope is kept for that. -/
theorem closed_installer (own : Address) (x : World.Installer) :
    Closed (fun _ => False) own fun s => s.world.installer = x where
  guarded _ := fun _ ha => ha.elim
  spared h _ := h
  bound _ h _ := h
  written text h := (Scene.write_installer text _).trans h
  flushed h := (Scene.flush_installer _).trans h
  loaded _ h := h

/-- Whenever a run stops, the installer is as it was when the run went on last. -/
abbrev Run.Abstains {α : Type} (r : Run α) (installer : World.Installer) : Prop :=
  r.Always (fun x s => s.world.installer = x) (fun x _ s => s.world.installer = x) installer

/-- Code that goes on leaves the installer alone. -/
def Abstaining (resume : Scene → Run (Except Fault Value)) : Prop :=
  ∀ scene, (resume scene).Abstains scene.world.installer

theorem Run.Abstains.resume {scene : Scene} {resume : Scene → Run (Except Fault Value)}
    {installer : World.Installer} (h : (Run.suspended scene resume).Abstains installer) :
    Abstaining resume :=
  fun scene' => h.2 _ scene' rfl

theorem abstains_runChunk (own : Address) (file : Datum) (source : String) (s : Scene) :
    (runChunk own file source s).Abstains s.world.installer := by
  refine (keeps_evalSource (closed_installer own) file source _ (s.opens _) rfl).andThen
    fun x result s₁ h => ?_
  have houtcome := kept_outcome (closed_installer own x) h.1 h.2
  dsimp only
  generalize outcome result s₁ = out at houtcome
  obtain ⟨result, s₂⟩ := out
  have hflush := (Scene.flush_installer s₂).trans houtcome
  dsimp only at hflush ⊢
  generalize s₂.flush = flushed at hflush
  obtain ⟨_ | fault, s₃⟩ := flushed <;> exact hflush

theorem probe_installer (root : String) (s : Scene) :
    (probe root s).2.world.installer = s.world.installer := by
  have hprobe := Scene.kept_probeModule (closed_installer 0 s.world.installer) root
    (s := s.opens (.probe root)) rfl
  unfold probe
  generalize (s.opens (.probe root)).probeModule root = probed at hprobe
  obtain ⟨result, s₁⟩ := probed
  have hflush := (Scene.flush_installer s₁).trans hprobe
  dsimp only at hflush ⊢
  generalize s₁.flush = flushed at hflush
  obtain ⟨_ | fault, s₂⟩ := flushed <;> exact hflush

theorem runScript_installer (url : Datum) (source : String) (s : Scene) :
    (runScript url source s).2.world.installer = s.world.installer :=
  kept_runScript (closed_installer Store.hostScope s.world.installer) rfl url source

end Execution

theorem Interpreter.close_installer (i : Interpreter) (w : World) :
    (i.close w).2.2.installer = w.installer := by
  have hflush := (i.scene w).flush_installer
  unfold close
  revert hflush
  rcases (i.scene w).flush with ⟨_ | fault, s⟩ <;> exact id

end Chunkwise
