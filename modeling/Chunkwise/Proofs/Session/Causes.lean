import Chunkwise.Proofs.Session.Attempts
import Chunkwise.Proofs.Session.Executions
import Chunkwise.Proofs.Session.Rooms

/-!
What evaluations fail by. Each fault that ends an evaluation has come out of one thing that was done
for it, and that is on record: the construction or the attempt that it has waited for, a probe, an
install or its code.
-/
namespace Chunkwise.Session
open Chunkwise.Execution

variable {rule : Rule} {settings : Settings} {world : World} {s₀ s s' : Session} {p p' : Point}
  {n i a c : Nat} {fault : Fault} {cause : Cause}

/-! What has ended and what is on record stay. -/

/-- What is on record of a session is on record of another, and what has ended has ended there. -/
structure Outlasts (s s' : Session) : Prop where
  deeds : ∀ {deed : Deed}, deed ∈ s.deeds → deed ∈ s'.deeds
  making : ∀ {c : Nat} {result : Except Fault Nat}, s.making? c = some (.ended result) →
    s'.making? c = some (.ended result)
  loading : ∀ {a : Nat} {fault : Option Fault}, s.loading? a = some (.ended fault) →
    s'.loading? a = some (.ended fault)

theorem Move.making_ended (m : Move (p, s) (p', s')) (h : Attends p s)
    {result : Except Fault Nat} (hc : s.making? c = some (.ended result)) :
    s'.making? c = some (.ended result) := by
  rw [making?_eq] at hc ⊢
  exact (m.founding h).ended_stays h hc

theorem Visits.making_ended (h : Visits rule s₀ p s) (m : Moves (p, s) (p', s'))
    {result : Except Fault Nat} (hc : s.making? c = some (.ended result)) :
    s'.making? c = some (.ended result) := by
  suffices ∀ x, Moves (p, s) x → Visits rule s₀ x.1 x.2 ∧ x.2.making? c = some (.ended result) from
    (this _ m).2
  intro x m
  induction m with
  | refl => exact ⟨h, hc⟩
  | tail _ m ih => exact ⟨ih.1.move m, Move.making_ended m ih.1.attends ih.2⟩

theorem Moves.mem_deeds {x y : Point × Session} (m : Moves x y) {deed : Deed}
    (h : deed ∈ x.2.deeds) : deed ∈ y.2.deeds := by
  induction m with
  | refl => exact h
  | tail _ m ih => exact Move.mem_deeds m ih

theorem Step.outlasts (hstep : Step cause s s') (h : Visits rule s₀ .rest s)
    (allowed : rule cause s) : Outlasts s s' := by
  refine ⟨fun {deed} hd => ?_, fun {c result} hc => ?_, fun ha => (hstep.ended ha).1⟩
  all_goals cases hstep with
    | submit | outside => assumption
    | fire ready => first
      | exact Moves.mem_deeds (moves_fire _ _) (by exact hd)
      | exact (h.pick ready allowed).making_ended (moves_fire _ _) hc
    | close =>
      obtain ⟨_, _, _, _, hclose | hclose⟩ := close_eq s
      all_goals
        rw [hclose]
        assumption

/-! Jobs. -/

/-- What an evaluation has failed by: what it has waited for, a probe, an install, or its code. -/
inductive FailedBy (s : Session) (n : Nat) (fault : Fault) : Prop
  | construction {c : Nat} (waited : .awaitConstruction n c ∈ s.deeds)
      (ended : s.making? c = some (.ended (.error fault)))
  | attempt {a : Nat} (waited : .awaitAttempt n a ∈ s.deeds)
      (ended : s.loading? a = some (.ended (some fault)))
  | probe {root : String} {scene : Scene} (failed : .probe n root none ∈ s.deeds)
      (raised : (Execution.probe root scene).1 = .error fault)
  | install {missing : List String} {raw : Fault} (refused : .installed n missing false ∈ s.deeds)
      (told : fault = Packages.installFault missing raw)
  | code {i : Nat} (begun : .run n i ∈ s.deeds)

theorem FailedBy.mono (h : FailedBy s n fault) (hs : Outlasts s s') : FailedBy s' n fault := by
  cases h with
  | construction waited ended => exact .construction (hs.deeds waited) (hs.making ended)
  | attempt waited ended => exact .attempt (hs.deeds waited) (hs.loading ended)
  | probe failed raised => exact .probe (hs.deeds failed) raised
  | install refused told => exact .install (hs.deeds refused) told
  | code begun => exact .code (hs.deeds begun)

/-- It is on record how a job has come to its stage. -/
def Stage.Backed (s : Session) (n : Nat) : Stage → Prop
  | .awaitingInterpreter c => .awaitConstruction n c ∈ s.deeds
  | .awaitingBridge _ a => .awaitAttempt n a ∈ s.deeds
  | .running i _ => .run n i ∈ s.deeds
  | .ended (.error fault) => FailedBy s n fault
  | _ => True

theorem Stage.backed_ended {result : Except Fault Value}
    (h : ∀ fault, result = .error fault → FailedBy s n fault) :
    (Stage.ended result).Backed s n := by
  cases result with
  | ok => trivial
  | error fault => exact h fault rfl

theorem Stage.Backed.mono {stage : Stage} (h : stage.Backed s n) (hs : Outlasts s s') :
    stage.Backed s' n := by
  cases stage with
  | awaitingInterpreter | awaitingBridge | running => exact hs.deeds h
  | ended result =>
    cases result with
    | ok => trivial
    | error => exact FailedBy.mono h hs
  | _ => trivial

/-- It is on record how a job has come to where it stands. -/
def Backed (n : Nat) (s : Session) : Prop :=
  ∀ stage, s.stage? n = some stage → stage.Backed s n

theorem Backed.of_stage (stage : Stage) (s' : Session) (hjobs : s'.jobs = (s.setJob n stage).jobs)
    (h : stage.Backed s' n) : Backed n s' := by
  intro other hother
  rw [stage?, hjobs, ← stage?, stage?_setJob] at hother
  obtain ⟨_, _, rfl⟩ := Option.map_eq_some_iff.mp hother
  exact h

/-! What each part of an evaluation puts on record, from the last to the first. -/

theorem backed_followChunk (h : .run n i ∈ s.deeds) (source : String)
    (run : Run (Except Fault Value)) : Backed n (s.followChunk n i source run) := by
  cases run with
  | exhausted => exact .of_stage .stuck _ rfl trivial
  | suspended scene resume => exact .of_stage (.running i resume) _ rfl h
  | done result scene =>
    simp only [followChunk, concludeChunk_eq, after_nil]
    exact .of_stage (.ended _) _ rfl (Stage.backed_ended fun fault _ => .code (i := i) h)

theorem backed_startChunk (n i : Nat) (s : Session) : Backed n (s.startChunk n i) :=
  backed_followChunk (List.mem_append_right _ (List.mem_singleton_self _)) _ _

theorem backed_queueChunk (n i : Nat) (s : Session) : Backed n (s.queueChunk n i) := by
  simp only [queueChunk]
  split
  · exact backed_startChunk n i _
  · exact .of_stage (.queuedToRun i) _ rfl trivial

theorem backed_install (n i : Nat) (missing : List String) (turns : Nat) (s : Session) :
    Backed n (s.install n i missing turns) := by
  cases turns with
  | succ turns => exact .of_stage (.installing i missing turns) _ rfl trivial
  | zero =>
    simp only [install]
    split
    · exact backed_queueChunk n i _
    · refine .of_stage (.ended (.error _)) _ rfl (FailedBy.install ?_ rfl)
      exact List.mem_append_left _ (List.mem_append_right _ (List.mem_singleton_self _))

/-- A search that fails does so by its last probe. -/
theorem probe_of_missing {left : List String}
    (h : Packages.missing (environment n i) left s = (.error fault, s')) :
    ∃ root scene, .probe n root none ∈ s'.deeds ∧
      (Execution.probe root scene).1 = .error fault := by
  induction left generalizing s s' with
  | nil => cases h
  | cons root rest ih =>
    rw [Packages.missing, environment_probe] at h
    rcases hprobe : Execution.probe root (s.scene i) with ⟨raised | answer, scene⟩
    · rw [hprobe] at h
      cases h
      exact ⟨root, _, List.mem_append_right _ (List.mem_singleton_self _), congrArg Prod.fst hprobe⟩
    · rw [hprobe] at h
      dsimp only at h
      split at h
      · cases h
      next hrest =>
        cases h
        exact ih hrest

theorem backed_findPackages (n i : Nat) (s : Session) : Backed n (s.findPackages n i) := by
  unfold findPackages
  split
  next fault s₁ hmissing =>
    obtain ⟨root, scene, hprobe, hraised⟩ := probe_of_missing hmissing
    exact .of_stage (.ended (.error fault)) _ rfl
      (.probe (List.mem_append_left _ hprobe) hraised)
  · exact backed_queueChunk n i _
  · exact backed_install n i _ _ _

theorem backed_queueResolving (n i : Nat) (s : Session) : Backed n (s.queueResolving n i) := by
  unfold queueResolving
  split
  · exact backed_queueChunk n i _
  · split
    · exact backed_findPackages n i _
    · exact .of_stage (.queuedToResolve i) _ rfl trivial

theorem backed_afterBridge (n i : Nat) (s : Session) : Backed n (s.afterBridge n i) := by
  unfold afterBridge
  split
  · exact backed_queueResolving n i _
  · exact .of_stage (.ended (.ok .null)) _ rfl trivial

theorem backed_watchAttempt (n i a : Nat) (s : Session) : Backed n (s.watchAttempt n i a) :=
  .of_stage (.awaitingBridge i a) _ rfl
    (List.mem_append_right _ (List.mem_singleton_self _))

theorem backed_needBridge (n i : Nat) (s : Session) : Backed n (s.needBridge n i) := by
  unfold needBridge
  split
  · exact backed_afterBridge n i _
  · split
    · exact backed_watchAttempt n i _ _
    · exact backed_watchAttempt n i _ _

theorem backed_withInterpreter (n i : Nat) (s : Session) : Backed n (s.withInterpreter n i) := by
  simp only [withInterpreter]
  split
  · split
    · exact backed_needBridge n i _
    · exact backed_queueResolving n i _
  · exact .of_stage (.ended (.ok .null)) _ rfl trivial

theorem backed_learnInterpreter {result : Except Fault Nat}
    (hwaited : .awaitConstruction n c ∈ s.deeds) (hended : s.making? c = some (.ended result)) :
    Backed n (s.learnInterpreter n c result) := by
  unfold learnInterpreter
  split
  · exact backed_withInterpreter n _ _
  next fault =>
    dsimp only
    split
    · exact .of_stage (.ended (.error fault)) _ rfl (.construction hwaited hended)
    · exact .of_stage (.ended (.error fault)) _ rfl (.construction hwaited hended)

theorem backed_watchConstruction (n c : Nat) (s : Session) :
    Backed n (s.watchConstruction n c) := by
  have hwaited : .awaitConstruction n c ∈ (s.did (.awaitConstruction n c)).deeds :=
    List.mem_append_right _ (List.mem_singleton_self _)
  simp only [watchConstruction]
  split
  next hended => exact backed_learnInterpreter hwaited hended
  next => exact .of_stage (.awaitingInterpreter c) _ rfl hwaited

theorem backed_needInterpreter (n : Nat) (s : Session) : Backed n (s.needInterpreter n) := by
  unfold needInterpreter
  split
  · exact backed_withInterpreter n _ _
  · exact backed_watchConstruction n _ _
  · exact backed_watchConstruction n _ _

/-- Wherever a job goes on, it is on record how it has come there. -/
theorem Backed.continueJob (h : Backed n s) : Backed n (s.continueJob n) := by
  unfold Session.continueJob
  split
  next hstage =>
    unfold startJob
    split
    · exact backed_needBridge _ _ _
    · exact backed_needInterpreter n _
  next hstage =>
    split
    next hended => exact backed_learnInterpreter (h _ hstage) hended
    next => exact h
  next hstage =>
    split
    · exact backed_afterBridge _ _ _
    next fault hended =>
      exact .of_stage (.ended (.error fault)) _ rfl (.attempt (h _ hstage) hended)
    · exact h
  next =>
    split
    · exact backed_findPackages _ _ _
    · exact h
  next => exact backed_install _ _ _ _ _
  next =>
    split
    · exact backed_startChunk _ _ _
    · exact h
  next hstage => exact backed_followChunk (h _ hstage) _ _
  all_goals exact h

theorem Backed.mono (h : Backed n s) (hs : Outlasts s s') (hstage : s'.stage? n = s.stage? n) :
    Backed n s' :=
  fun stage hn => (h stage (hstage.symm.trans hn)).mono hs

theorem Backed.step (h : Backed n s) (hv : Visits rule s₀ .rest s) (hstep : Step cause s s')
    (allowed : rule cause s) : Backed n s' := by
  have hs := hstep.outlasts hv allowed
  cases hstep with
  | submit request =>
    intro stage hn
    rw [stage?_submit] at hn
    split at hn
    · cases hn
      trivial
    · exact (h stage hn).mono hs
  | @fire _ event ready =>
    by_cases hevent : event.actor = .job n
    · cases event with
      | relay m => exact h.mono hs rfl
      | job m =>
        cases hevent
        exact Backed.continueJob (s := { s with ready := s.ready.erase (.job n) }) fun stage hn =>
          (h stage hn).mono ⟨id, id, id⟩
      | construction | attempt => cases hevent
    · have hplace := ((moves_fire event { s with ready := s.ready.erase event }).elsewhere (n := n)
        fun hturn => hevent (Option.some.inj hturn)).2.1
      exact h.mono hs (Place.waiting.inj hplace)
  | close =>
    refine h.mono hs ?_
    obtain ⟨_, _, _, _, hclose | hclose⟩ := close_eq s
    all_goals
      rw [hclose]
      rfl
  | outside => exact h.mono hs rfl

/-- Whatever comes, it is on record how each job has come to where it stands. -/
theorem backed_of_reaches (h : Reaches rule (fresh settings world [] none) s) (n : Nat) :
    Backed n s := by
  induction h with
  | refl => exact nofun
  | tail h hstep ih =>
    obtain ⟨cause, hstep, allowed⟩ := hstep
    exact ih.step (visits_of_reaches h) hstep allowed

theorem Reaches.failedBy (h : Reaches rule (fresh settings world [] none) s)
    (hresult : s.result? n = some (.error fault)) : FailedBy s n fault := by
  unfold result? at hresult
  split at hresult
  next hstage =>
    cases hresult
    exact backed_of_reaches h n _ hstage
  next => cases hresult

/-! What stops everything. -/

/-- A construction or an attempt has ended with a fault. -/
def Foundered (s : Session) (fault : Fault) : Prop :=
  (∃ c, s.making? c = some (.ended (.error fault))) ∨
    ∃ a, s.loading? a = some (.ended (some fault))

/-- What has stopped everything is such a fault. -/
def HaltedBy (s : Session) : Prop :=
  ∀ fault, s.halted = some fault → Foundered s fault

theorem HaltedBy.move (h : HaltedBy s) (m : Move (p, s) (p', s')) (ha : Attends p s)
    (hb : Bridged p s) : HaltedBy s' := by
  have hkept {fault : Fault} (hf : s.halted = some fault) : Foundered s' fault := by
    obtain ⟨c, hc⟩ | ⟨a, hended⟩ := h fault hf
    · exact .inl ⟨c, m.making_ended ha hc⟩
    · exact .inr ⟨a, hb.landed_stays m hended⟩
  have hor (raw : Option Fault) (hhalted : s'.halted = s.halted.or (raw.filter isFatal))
      (hended : ∀ fault, raw = some fault → Foundered s' fault) : HaltedBy s' := by
    intro fault hf
    rw [hhalted, Option.or_eq_some_iff] at hf
    rcases hf with hf | ⟨-, hf⟩
    · exact hkept hf
    · exact hended fault (Option.filter_eq_some_iff.mp hf).1
  have hlands {a : Nat} {fault : Fault} (hat : p.attempt? = some a) :
      (s.endAttempt a (some fault)).loading? a = some (.ended (some fault)) := by
    obtain ⟨b, hflight⟩ := hb.here hat
    obtain ⟨made, hmade, -⟩ := inFlight_iff.mpr hflight
    have hset := loading?_setAttempt a (.ended (some fault)) s
    rwa [show s.loading? a = some made.stage by simp [loading?, hmade]] at hset
  cases m
  case failConstruction c fault =>
    refine hor (some fault) rfl fun _ hraw => .inl ⟨c, ?_⟩
    obtain ⟨stage, hstage, -⟩ := ha
    cases hraw
    rw [making?_eq] at hstage ⊢
    exact (congrArg (·[c]?) (makings_setConstruction ..)).trans
      (List.getElem?_set_self (List.getElem?_eq_some_iff.mp hstage).1)
  case construct | arrive => exact hor none rfl (by simp)
  case failAttempt a fault | failAdapted a fault =>
    refine hor (some fault) rfl fun _ hraw => .inr ⟨a, ?_⟩
    cases hraw
    exact hlands rfl
  all_goals exact fun fault hf => hkept hf

theorem Visits.haltedBy (h : Visits rule (fresh settings world [] none) p s) : HaltedBy s := by
  induction h with
  | start => exact nofun
  | move h m ih => exact ih.move m h.attends (h.bridged (bridged_fresh settings world [] none))
  | _ => assumption

end Chunkwise.Session
