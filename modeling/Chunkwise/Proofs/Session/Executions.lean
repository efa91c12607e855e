import Chunkwise.Proofs.Execution.Endings
import Chunkwise.Proofs.Session.Alone.Chunk
import Chunkwise.Proofs.Session.Turns

/-!
Chunks that are executed while other things happen. A job whose code has begun to run goes on with
the run that began, from whatever others have left at its turns, and ends as that run does.
-/
namespace Chunkwise.Session
open Chunkwise.Execution

variable {rule : Rule} {settings : Settings} {world : World}
variable {s₀ s s' t : Session} {p p' : Point} {n i : Nat} {run r : Run (Except Fault Value)}
  {event : Event}

/-- Where a job stands that carries out a run: it waits for its next turn, or it is over. -/
inductive Executing (file : Datum) (source : String) (i : Nat) (run : Run (Except Fault Value)) :
    Stage → Prop
  | waits {scene : Scene} {resume : Scene → Run (Except Fault Value)}
      (h : run.Leads (.suspended scene resume)) : Executing file source i run (.running i resume)
  | stuck : Executing file source i run .stuck
  | ended {result : Except Fault Value} {scene : Scene} (h : run.Ends result scene) :
      Executing file source i run (.ended (concluded file source result scene.world).1)

/-- The run of a job's chunk that begins in a session. -/
def chunkRun (n i : Nat) (t : Session) : Run (Except Fault Value) :=
  runChunk (t.cell i).interpreter.globals t.file (t.scanOf n).source (t.scene i)

/-- A job carries out the run that began where it is on record that its code did. -/
def Executed (rule : Rule) (s₀ : Session) (n i : Nat) (s : Session) : Prop :=
  ∃ t before stage, Visits rule s₀ (.job n (.follow i)) t ∧ t.deeds = before ++ [.run n i] ∧
    Later t s ∧ s.stage? n = some stage ∧
    Executing t.file (t.scanOf n).source i (chunkRun n i t) stage

/-- The job whose code begins to run, and where. -/
def Deed.begun? : Deed → Option (Nat × Nat)
  | .run n i => some (n, i)
  | _ => none

theorem mem_begun {deeds : List Deed} :
    (n, i) ∈ deeds.filterMap Deed.begun? ↔ .run n i ∈ deeds := by
  rw [List.mem_filterMap]
  constructor
  · rintro ⟨deed, hdeed, hbegun⟩
    cases deed with
    | run m j =>
      cases hbegun
      exact hdeed
    | _ => cases hbegun
  · exact fun h => ⟨_, h, rfl⟩

/-- The code of a job has not begun to run. -/
def Unbegun (n : Nat) (s : Session) : Prop :=
  ∀ i, .run n i ∉ s.deeds

theorem Unbegun.did (h : Unbegun n s) (deed : Deed) (hdeed : ∀ i, deed ≠ .run n i) :
    Unbegun n (s.did deed) := fun i hi =>
  (List.mem_append.mp hi).elim (h i) fun hlast => hdeed i (List.mem_singleton.mp hlast).symm

theorem Unbegun.installed (h : Unbegun n s) (w : World) (names : List String) (success : Bool) :
    Unbegun n ({ s with world := w }.did (.installed n names success)) :=
  Unbegun.did (s := { s with world := w }) h _ nofun

theorem Unbegun.releaseResolving (h : Unbegun n s) : Unbegun n (s.releaseResolving n) :=
  Unbegun.did (s := { s with resolving := s.resolving.release }.wakeAll
    s.resolving.waiting.head?.toList) h (.searched n) nofun

theorem Unbegun.probed (h : Unbegun n s) (i : Nat) (scene : Scene) (root : String)
    (answer : Option Bool) : Unbegun n ((s.leave i scene).did (.probe n root answer)) :=
  Unbegun.did (s := s.leave i scene) h _ nofun

theorem Unbegun.missing (h : Unbegun n s) (i : Nat) (left : List String) :
    Unbegun n (Packages.missing (environment n i) left s).2 := by
  induction left generalizing s with
  | nil => exact h
  | cons root rest ih =>
    rw [Packages.missing, environment_probe]
    obtain ⟨fault | answer, scene⟩ := probe root (s.scene i)
    · exact h.probed i scene root none
    · have hrest := ih (s := (environment n i).note (Packages.probeEntry root answer)
        ((s.leave i scene).did (.probe n root (some answer)))) (h.probed i scene root (some answer))
      revert hrest
      dsimp only [Except.toOption]
      rcases Packages.missing (environment n i) rest _ with ⟨_ | names, s₁⟩ <;> exact id

/-! A job on its way to its code. -/

/-- An event leaves a job on its way to its code, or there its code begins to run. -/
inductive Onward (n : Nat) (p : Point) (s s' : Session) : Prop
  | holds (h : Unbegun n s')
  | begins {i : Nat} {t : Session} (m : Moves (p, s) (.job n (.follow i), t.did (.run n i)))
      (unbegun : Unbegun n t) (h : s' = t.startChunk n i)

theorem Onward.moves {s₁ : Session} (h : Onward n p' s₁ s') (m : Moves (p, s) (p', s₁)) :
    Onward n p s s' := by
  cases h with
  | holds h => exact .holds h
  | begins m' unbegun h => exact .begins (m.trans m') unbegun h

theorem Onward.move {s₁ : Session} (h : Onward n p' s₁ s') (m : Move (p, s) (p', s₁)) :
    Onward n p s s' :=
  h.moves (.single m)

theorem onward_queueChunk (i : Nat) (h : Unbegun n s) :
    Onward n (.job n (.execute i)) s (s.queueChunk n i) := by
  refine .move ?_ (move_world rfl (s.world.note .debug .evaluator
    ("Executing chunk:\n" ++ (s.scanOf n).source)) rfl)
  simp only [queueChunk]
  split
  next free => exact .begins (.single (.execute free)) h rfl
  next => exact .holds h

theorem onward_install (i : Nat) (missing : List String) (turns : Nat) (h : Unbegun n s) :
    Onward n (.job n (.install i missing)) s (s.install n i missing turns) := by
  cases turns with
  | succ turns => exact .holds h
  | zero =>
    simp only [install]
    split
    next w hi =>
      have hinstalled := (h.installed w missing true).releaseResolving
      exact ((onward_queueChunk i hinstalled).move .conclude).move (.installed hi)
    next w _ => exact .holds (h.installed w missing false).releaseResolving

theorem onward_findPackages (i : Nat) (h : Unbegun n s) :
    Onward n (.job n (.search i (s.scanOf n).roots [])) (s.did (.search n))
      (s.findPackages n i) := by
  have hsearch : Unbegun n (s.did (.search n)) := h.did _ nofun
  have hmissing := hsearch.missing i (s.scanOf n).roots
  refine .moves ?_ (moves_missing n i _ [] _)
  unfold findPackages
  revert hmissing
  obtain ⟨fault | _ | ⟨first, rest⟩, s₁⟩ :=
    Packages.missing (environment n i) (s.scanOf n).roots (s.did (.search n))
  · exact fun hmissing => .holds hmissing.releaseResolving
  · exact fun hmissing =>
      ((onward_queueChunk i hmissing.releaseResolving).move .conclude).move .foundAll
  · exact fun hmissing =>
      (onward_install i _ _ (hmissing.did (.request n _) nofun)).move
        (.request (List.cons_ne_nil _ _))

theorem onward_queueResolving (i : Nat) (h : Unbegun n s) :
    Onward n (.job n (.resolve i)) s (s.queueResolving n i) := by
  unfold queueResolving
  split
  next hroots => exact (onward_queueChunk i h).move (.resolveNone (by simpa using hroots))
  next hroots =>
    split
    next free =>
      exact (onward_findPackages (s := { s with resolving := s.resolving.take }) i h).move
        (.search (by simpa using hroots) free)
    next => exact .holds h

theorem onward_afterBridge (i : Nat) (h : Unbegun n s) :
    Onward n (.job n (.onward i)) s (s.afterBridge n i) := by
  unfold afterBridge
  split
  next hr => exact (onward_queueResolving i h).move (.onward hr)
  next => exact .holds h

theorem onward_needBridge (i : Nat) (h : Unbegun n s) :
    Onward n (.job n (.cross i)) s (s.needBridge n i) := by
  unfold needBridge
  split
  next hready => exact (onward_afterBridge i h).move (.crossed hready)
  next =>
    split
    next a _ => exact .holds (h.did (.awaitAttempt n a) nofun)
    next =>
      exact .holds (Unbegun.did (s := s.newAttempt i) h (.awaitAttempt n s.attempts.length) nofun)

theorem onward_withInterpreter (i : Nat) (h : Unbegun n s) :
    Onward n (.job n (.enter i)) s (s.withInterpreter n i) := by
  have hentered : Unbegun n (s.did (.enter n i)) := h.did _ nofun
  simp only [withInterpreter]
  split
  next hr =>
    split
    next hh => exact (onward_needBridge i hentered).move (.enterHeavy hr hh)
    next hh => exact (onward_queueResolving i hentered).move (.enterLight hr hh)
  next => exact .holds hentered

theorem onward_learnInterpreter (c : Nat) (result : Except Fault Nat) (h : Unbegun n s) :
    Onward n (.job n (.learn c result)) s (s.learnInterpreter n c result) := by
  unfold learnInterpreter
  split
  · exact (onward_withInterpreter _ h).move .learnOk
  · simp only
    split <;> exact .holds h

theorem onward_watchConstruction (c : Nat) (h : Unbegun n s) :
    Onward n (.job n (.watch c)) s (s.watchConstruction n c) := by
  have hawaits : Unbegun n (s.did (.awaitConstruction n c)) := h.did _ nofun
  simp only [watchConstruction]
  split
  next hc => exact (onward_learnInterpreter c _ hawaits).move (.watchEnded hc)
  next => exact .holds hawaits

theorem onward_needInterpreter (h : Unbegun n s) :
    Onward n (.job n .seek) s (s.needInterpreter n) := by
  unfold needInterpreter
  split
  next hi => exact (onward_withInterpreter _ h).move (.know hi)
  next hi hc => exact (onward_watchConstruction _ h).move (.join hi hc)
  next hi hc =>
    exact (onward_watchConstruction (s := s.newConstruction) _ h).move (.found hi hc)

/-- A job whose code has not begun to run goes on to it. -/
theorem onward_continueJob (h : Unbegun n s)
    (hn : ∀ i resume, s.stage? n ≠ some (.running i resume)) :
    Onward n (.picked (.job n)) s (s.continueJob n) := by
  unfold continueJob
  split
  next hstage =>
    unfold startJob
    split
    next hr => exact (onward_needBridge _ h).move (.startCrossing hstage hr)
    next hr => exact (onward_needInterpreter h).move (.start hstage hr)
  next hstage =>
    split
    next hc => exact (onward_learnInterpreter _ _ h).move (.learn hstage hc)
    next => exact .holds h
  next hstage =>
    split
    next ha => exact (onward_afterBridge _ h).move (.arrived hstage ha)
    next => exact .holds h
    next => exact .holds h
  next hstage =>
    split
    next turn =>
      exact (onward_findPackages (s := { s with resolving := s.resolving.takeAfter (.job n) }) _
        h).move (.searchNext hstage turn)
    next => exact .holds h
  next hstage => exact (onward_install _ _ _ h).move (.installOn hstage)
  next hstage =>
    split
    next turn => exact .begins (.single (.executeNext hstage turn)) h rfl
    next => exact .holds h
  next hstage => exact absurd hstage (hn _ _)
  all_goals exact .holds h

/-! A job whose code is running. -/

theorem Executing.followChunk (h : r.Leads run) (hn : s.stage? n ≠ none) (source : String) :
    ∃ stage, (s.followChunk n i source run).stage? n = some stage ∧
      Executing s.file source i r stage := by
  have set_stage (stage : Stage) {s : Session} (hn : s.stage? n ≠ none) :
      (s.setJob n stage).stage? n = some stage := by
    obtain ⟨old, hold⟩ := Option.ne_none_iff_exists'.mp hn
    rw [stage?_setJob, hold]
    rfl
  cases run with
  | exhausted => exact ⟨_, set_stage _ hn, .stuck⟩
  | suspended scene resume => exact ⟨_, set_stage (s := s.leave i scene) _ hn, .waits h⟩
  | done result scene =>
    refine ⟨_, ?_, .ended (h.ends .done)⟩
    simp only [Session.followChunk, concludeChunk_eq]
    exact set_stage (s := ((s.leave i scene).releaseRun i).after _ []) _ hn

theorem followChunk_deeds (n i : Nat) (source : String) (run : Run (Except Fault Value))
    (s : Session) : (s.followChunk n i source run).deeds = s.deeds := by
  cases run with
  | exhausted => rfl
  | suspended scene resume => rfl
  | done result scene =>
    simp only [Session.followChunk, concludeChunk_eq, after_nil]
    rfl

/-! All that happens. -/

theorem Moves.later {x y : Point × Session} (m : Moves x y) : Later x.2 y.2 := by
  induction m with
  | refl => exact ⟨rfl, id⟩
  | tail _ m ih => exact ih.trans m.later

/-- In an event nothing comes of the code of a job whose turn it is not. -/
theorem Moves.elsewhere {x y : Point × Session} (m : Moves x y) (hx : x.1.turn? ≠ some (.job n)) :
    y.1.turn? ≠ some (.job n) ∧ place n y.1 y.2 = place n x.1 x.2 ∧
      ∀ i, .run n i ∈ y.2.deeds → .run n i ∈ x.2.deeds := by
  induction m with
  | refl => exact ⟨hx, rfl, fun _ => id⟩
  | tail _ m ih =>
    obtain ⟨hy, hplace, hdeeds⟩ := ih
    have hat : ¬Point.isAt n _ := fun hat => hy (isAt_of_turn? hat)
    refine ⟨?_, (m.place_eq hat).trans hplace, fun i hi => ?_⟩
    · rcases m.turn? with hrest | hsame
      · simp [hrest, Point.turn?]
      · exact hsame ▸ hy
    · exact (m.deed_cases hi).elim (hdeeds i) fun ho => absurd (ho.isAt rfl) hat

theorem Executed.mono (h : Executed rule s₀ n i s) (hlater : Later s s')
    (hstage : s'.stage? n = s.stage? n) : Executed rule s₀ n i s' :=
  have ⟨t, before, stage, hv, hdeeds, ht, hold, he⟩ := h
  ⟨t, before, stage, hv, hdeeds, ht.trans hlater, hstage.trans hold, he⟩

/-- A turn of a job whose code is running. -/
theorem Executed.continueJob (h : Executed rule s₀ n i s) :
    Executed rule s₀ n i (s.continueJob n) ∧ (s.continueJob n).deeds = s.deeds := by
  obtain ⟨t, before, stage, hv, hdeeds, hlater, hstage, he⟩ := h
  have hsource : s.scanOf n = t.scanOf n :=
    hlater.scanOf (request?_of_stage? (hv.stage?_ne_none rfl))
  have hfile : s.file = t.file := by simp only [Session.file, hlater.settings]
  have hafter : Later t (s.continueJob n) := hlater.trans (moves_continueJob n s).later
  cases he with
  | @waits scene resume h =>
    have hgoes : s.continueJob n = s.followChunk n i (s.scanOf n).source (resume (s.scene i)) := by
      simp only [Session.continueJob, hstage]
    obtain ⟨stage', hstage', he'⟩ := Executing.followChunk (s := s) (n := n) (i := i)
      (.resumed (s.scene i) h) (by simp [hstage]) (s.scanOf n).source
    rw [hfile, hsource] at he'
    exact ⟨⟨t, before, stage', hv, hdeeds, hafter, hgoes ▸ hstage', he'⟩,
      hgoes ▸ followChunk_deeds ..⟩
  | stuck =>
    have hsame : s.continueJob n = s := by simp only [Session.continueJob, hstage]
    rw [hsame]
    exact ⟨⟨t, before, _, hv, hdeeds, hlater, hstage, .stuck⟩, rfl⟩
  | ended h =>
    have hsame : s.continueJob n = s := by simp only [Session.continueJob, hstage]
    rw [hsame]
    exact ⟨⟨t, before, _, hv, hdeeds, hlater, hstage, .ended h⟩, rfl⟩

/-- A turn in which the code of a job begins to run. -/
theorem executed_startChunk (hv : Visits rule s₀ (.job n (.follow i)) (t.did (.run n i))) :
    Executed rule s₀ n i (t.startChunk n i) := by
  obtain ⟨stage, hstage, he⟩ := Executing.followChunk (n := n) (i := i)
    (r := chunkRun n i (t.did (.run n i))) .refl (hv.stage?_ne_none rfl) (t.scanOf n).source
  exact ⟨t.did (.run n i), t.deeds, stage, hv, rfl, (moves_startChunk n i t).later, hstage, he⟩

theorem executed_fire (hv : Visits rule (fresh settings world [] none) (.picked event) s)
    (ih : ∀ i, .run n i ∈ s.deeds → Executed rule (fresh settings world [] none) n i s)
    (hrun : .run n i ∈ (s.fire event).deeds) :
    Executed rule (fresh settings world [] none) n i (s.fire event) := by
  by_cases hevent : event.actor = .job n
  case neg =>
    have m := moves_fire event s
    obtain ⟨-, hplace, hdeeds⟩ := m.elsewhere (n := n) fun h => hevent (Option.some.inj h)
    exact (ih i (hdeeds i hrun)).mono m.later (by simpa using hplace)
  case pos =>
    cases event with
    | relay m => exact (ih i hrun).mono ⟨rfl, id⟩ rfl
    | construction | attempt => cases hevent
    | job m =>
      cases hevent
      by_cases hbegun : ∃ j, .run n j ∈ s.deeds
      case pos =>
        obtain ⟨j, hj⟩ := hbegun
        have hi : .run n i ∈ s.deeds := (ih j hj).continueJob.2 ▸ hrun
        exact (ih i hi).continueJob.1
      case neg =>
        have hunbegun : Unbegun n s := fun j hj => hbegun ⟨j, hj⟩
        have hwaits (j : Nat) (resume) : s.stage? n ≠ some (.running j resume) := fun hstage =>
          hunbegun j (hv.run_mem (by simp [hstage, Place.running?]))
        cases onward_continueJob hunbegun hwaits with
        | holds h => exact absurd hrun (h i)
        | @begins j t m unbegun h =>
          have hbegins := executed_startChunk (hv.moves m)
          have hdeeds : (t.startChunk n j).deeds = t.deeds ++ [.run n j] := followChunk_deeds ..
          change .run n i ∈ (s.continueJob n).deeds at hrun
          change Executed rule _ n i (s.continueJob n)
          rw [h, hdeeds, List.mem_append, List.mem_singleton] at hrun
          rw [h]
          obtain hold | hnew := hrun
          · exact absurd hold (unbegun i)
          · cases hnew
            exact hbegins

/-- Every job whose code has begun to run carries it out, whatever else happens. -/
theorem Reaches.executed (h : Reaches rule (fresh settings world [] none) s)
    (hrun : .run n i ∈ s.deeds) : Executed rule (fresh settings world [] none) n i s := by
  induction h generalizing i with
  | refl => cases hrun
  | @tail s s' h step ih =>
    obtain ⟨cause, step, allowed⟩ := step
    cases step with
    | submit request =>
      have hold : Executed rule _ n i s := ih hrun
      have hstage : s.stage? n ≠ none := by
        obtain ⟨_, _, stage, -, -, -, hstage, -⟩ := hold
        simp [hstage]
      exact hold.mono (later_submit request s) (by simpa using place_submit request hstage)
    | fire ready =>
      exact executed_fire ((visits_of_reaches h).pick ready allowed)
        (fun _ hi => (ih hi).mono ⟨rfl, id⟩ rfl) hrun
    | close =>
      obtain ⟨world, cells, -, -, hclose | hclose⟩ := close_eq s
      all_goals
        rw [hclose] at hrun ⊢
        exact (ih hrun).mono ⟨rfl, id⟩ rfl
    | outside world => exact (ih hrun).mono ⟨rfl, id⟩ rfl

end Chunkwise.Session
