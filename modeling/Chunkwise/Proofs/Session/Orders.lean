import Chunkwise.Proofs.Session.Bridges
import Chunkwise.Proofs.Session.Installs
import Chunkwise.Proofs.World.Tool

/-!
What the package tool is asked for in a session. Each of its processes is for a search for packages
and gets the distributions of just the packages that the search has found missing; and a search
whose packages are refused ends its evaluation with a fault that tells of them.
-/
namespace Chunkwise.Session
open Chunkwise.Execution Chunkwise.World

variable {rule : Rule} {settings : Settings} {world w : World} {cells : List Cell}
variable {current : Option Nat} {s₀ s s' : Session} {p p' : Point} {n i a : Nat}

/-! Code that waits for its next turn. -/

namespace Steady

theorem same (h : s.Steady) (hjobs : s'.jobs = s.jobs) (hattempts : s'.attempts = s.attempts) :
    s'.Steady := by
  have hstage (n : Nat) : s'.stage? n = s.stage? n := by simp only [stage?, hjobs]
  have hloading (a : Nat) : s'.loading? a = s.loading? a := by simp only [loading?, hattempts]
  exact ⟨fun hn => h.jobs ((hstage _).symm.trans hn),
    fun ha => h.attempts ((hloading _).symm.trans ha)⟩

theorem setJob (h : s.Steady) (n : Nat) {stage : Stage}
    (hstage : ∀ i resume, stage = .running i resume → Abstaining resume) :
    (s.setJob n stage).Steady := by
  refine ⟨fun {m i resume} hm => ?_, h.attempts⟩
  by_cases hmn : n = m
  · subst hmn
    rw [stage?_setJob] at hm
    obtain ⟨_, _, hrunning⟩ := Option.map_eq_some_iff.mp hm
    exact hstage i resume hrunning
  · exact h.jobs ((stage?_setJob_ne hmn stage s).symm.trans hm)

theorem setAttempt (h : s.Steady) (a : Nat) {stage : Loading}
    (hstage : ∀ resume, stage = .running resume → Abstaining resume) :
    (s.setAttempt a stage).Steady := by
  refine ⟨h.jobs, fun {b resume} hb => ?_⟩
  by_cases hab : a = b
  · subst hab
    rw [loading?_setAttempt] at hb
    obtain ⟨_, _, hrunning⟩ := Option.map_eq_some_iff.mp hb
    exact hstage resume hrunning
  · exact h.attempts ((loading?_setAttempt_ne hab stage s).symm.trans hb)

theorem watchAttempt (h : s.Steady) (n i a : Nat) : (s.watchAttempt n i a).Steady := by
  refine ⟨fun {m j resume} hm => ?_,
    fun hb => h.attempts ((loading?_watchAttempt ..).symm.trans hb)⟩
  by_cases hmn : n = m
  · subst hmn
    rw [Session.watchAttempt, stage?_setJob] at hm
    obtain ⟨_, _, hrunning⟩ := Option.map_eq_some_iff.mp hm
    cases hrunning
  · exact h.jobs ((stage?_watchAttempt_ne hmn i a s).symm.trans hm)

theorem newAttempt (h : s.Steady) (i : Nat) : (s.newAttempt i).Steady := by
  refine ⟨h.jobs, fun {a resume} ha => h.attempts (a := a) ?_⟩
  simp only [loading?, Session.newAttempt, wake, mapCrossing] at ha ⊢
  grind

theorem submit (h : s.Steady) (request : Request) : (s.submit request).Steady := by
  refine ⟨fun {n i resume} hn => ?_, h.attempts⟩
  rw [stage?_submit] at hn
  split at hn
  · cases hn
  · exact h.jobs hn

end Steady

theorem Move.steady (m : Move (p, s) (p', s')) (h : s.Steady) : s'.Steady := by
  cases m
  case executeLater resume abstaining =>
    refine (h.setJob _ ?_).same rfl rfl
    rintro _ _ ⟨⟩
    exact abstaining h
  case adaptLater resume abstaining =>
    refine (h.setAttempt _ ?_).same rfl rfl
    rintro _ ⟨⟩
    exact abstaining h
  case newAttempt => exact (h.newAttempt _).watchAttempt _ _ _
  case watchAttempt => exact h.watchAttempt _ _ _
  case loadLater stage paused =>
    refine (h.setAttempt _ ?_).same rfl rfl
    rintro _ rfl
    cases paused
  case queueAdapter | stickAttempt | arrive | failAttempt | failAdapted =>
    exact (h.setAttempt _ (by rintro _ ⟨⟩)).same rfl rfl
  case watch | queueSearch | installLater | queueChunk | stick | finish =>
    exact (h.setJob _ (by rintro _ _ ⟨⟩)).same rfl rfl
  all_goals exact h.same rfl rfl

theorem Visits.steady (h : Visits rule (fresh settings world cells current) p s) : s.Steady := by
  induction h with
  | start => exact ⟨nofun, nofun⟩
  | move _ m ih => exact m.steady ih
  | submit request _ _ ih => exact ih.submit request
  | pick _ _ _ ih | change _ _ _ _ _ ih | close _ _ _ _ _ _ ih => exact ih.same rfl rfl

/-! What an event has to do with the installer. -/

/-- The installer is got ready, or has been asked for packages. -/
def Deed.isOrder : Deed → Bool
  | .prepare _ | .installed _ _ _ => true
  | _ => false

/-- What the installer was asked for. -/
def orders (deeds : List Deed) : List Deed :=
  deeds.filter Deed.isOrder

theorem orders_append (deeds more : List Deed) :
    orders (deeds ++ more) = orders deeds ++ orders more :=
  List.filter_append _ _

theorem orders_append_of_not {deed : Deed} (h : deed.isOrder = false) (deeds : List Deed) :
    orders (deeds ++ [deed]) = orders deeds := by
  simp [orders, h]

theorem Deed.isOrder_of_attempt? {deed : Deed} (h : deed.attempt? = some a) :
    deed.isOrder = false := by
  cases deed <;> first | rfl | cases h

/-- What a move has to do with the installer. -/
inductive Order (p : Point) (s : Session) (p' : Point) (s' : Session) : Prop
  | none (installer : s'.world.installer = s.world.installer)
      (orders : orders s'.deeds = orders s.deeds)
  | prepare {c : Nat} (here : p = .picked (.construction c)) (there : p' = .making c)
      (installer : s'.world.installer = s.world.prepareInstaller.2.installer)
      (orders : orders s'.deeds = orders s.deeds ++ [.prepare c])
  | provide {n i : Nat} {names : List String} (here : p = .job n (.install i names))
      (there : p' = .job n (.conclude i none)) (result : (s.world.install names).1 = Option.none)
      (installer : s'.world.installer = (s.world.install names).2.installer)
      (orders : orders s'.deeds = orders s.deeds ++ [.installed n names true])
  | refuse {n i : Nat} {names : List String} {fault : Fault} (here : p = .job n (.install i names))
      (there : p' = .job n (.conclude i (some (Packages.installFault names fault))))
      (result : (s.world.install names).1 = some fault)
      (installer : s'.world.installer = (s.world.install names).2.installer)
      (orders : orders s'.deeds = orders s.deeds ++ [.installed n names false])

theorem Move.order (m : Move (p, s) (p', s')) (h : s.Steady) : Order p s p' s' := by
  cases m
  case work kept => exact .none (kept h) rfl
  case prepare => exact .prepare rfl rfl rfl (orders_append ..)
  case installed hw =>
    exact .provide rfl rfl (congrArg Prod.fst hw) (congrArg (·.2.installer) hw).symm
      (orders_append ..)
  case installFailed hw =>
    exact .refuse rfl rfl (congrArg Prod.fst hw) (congrArg (·.2.installer) hw).symm
      (orders_append ..)
  case probe kept | abandon kept => exact .none kept (orders_append_of_not rfl _)
  case strive hdeed =>
    exact .none rfl
      (orders_append_of_not (Deed.isOrder_of_attempt? (Deed.attempt?_of_striver? hdeed)) _)
  all_goals
    first
      | exact .none rfl rfl
      | exact .none rfl (orders_append_of_not rfl _)

/-- Whoever has got past the installation never comes back to it in the same event. -/
theorem Move.past_install {task : Task} (m : Move (.job n task, s) (p', s'))
    (h : 10 ≤ task.rank) : p' = .rest ∨ ∃ task', p' = .job n task' ∧ 10 ≤ task'.rank := by
  cases m <;> simp_all [Task.rank]

/-- How far an event has come that began with a world and a record. It has had nothing to do with
the installer, or has got it ready, or has asked it for the packages of a job. -/
inductive Ordering (w : World) (deeds : List Deed) : Point → Session → Prop
  | unasked {p : Point} {s : Session} (installer : s.world.installer = w.installer)
      (orders : orders s.deeds = orders deeds) : Ordering w deeds p s
  | prepared {p : Point} {s : Session} {c : Nat} (stands : p = .making c ∨ p = .rest)
      (installer : s.world.installer = w.prepareInstaller.2.installer)
      (orders : orders s.deeds = orders deeds ++ [.prepare c]) : Ordering w deeds p s
  | provided {p : Point} {s : Session} {n : Nat} {names : List String} {asked : World}
      (before : asked.installer = w.installer) (result : (asked.install names).1 = none)
      (stands : p = .rest ∨ ∃ task, p = .job n task ∧ 10 ≤ task.rank)
      (installer : s.world.installer = (asked.install names).2.installer)
      (orders : orders s.deeds = orders deeds ++ [.installed n names true]) : Ordering w deeds p s
  | refused {p : Point} {s : Session} {n : Nat} {names : List String} {asked : World}
      {fault : Fault} (before : asked.installer = w.installer)
      (result : (asked.install names).1 = some fault)
      (stands : (∃ i, p = .job n (.conclude i (some (Packages.installFault names fault)))) ∨
        p = .job n (.finish (.error (Packages.installFault names fault))) ∨
        p = .rest ∧ s.result? n = some (.error (Packages.installFault names fault)))
      (installer : s.world.installer = (asked.install names).2.installer)
      (orders : orders s.deeds = orders deeds ++ [.installed n names false]) : Ordering w deeds p s

variable {deeds : List Deed}

theorem prepareInstaller_congr {w w' : World} (h : w.installer = w'.installer) :
    w.prepareInstaller.2.installer = w'.prepareInstaller.2.installer := by
  unfold World.prepareInstaller
  rw [h]
  split <;> simp_all

theorem result?_endJob {result : Except Fault Value} (h : s.stage? n ≠ none) :
    (s.endJob n result).result? n = some result := by
  obtain ⟨stage, hstage⟩ := Option.ne_none_iff_exists'.mp h
  rw [result?, endJob, stage?_setJob, hstage]
  rfl

theorem Ordering.move (o : Ordering w deeds p s) (m : Move (p, s) (p', s'))
    (h : Visits rule (fresh settings world cells current) p s) : Ordering w deeds p' s' := by
  have horder := m.order h.steady
  cases o with
  | unasked installer orders =>
    cases horder with
    | none installer' orders' => exact .unasked (installer'.trans installer) (orders'.trans orders)
    | prepare _ there installer' orders' =>
      exact .prepared (.inl there) (installer'.trans (prepareInstaller_congr installer))
        (orders ▸ orders')
    | provide _ there result installer' orders' =>
      exact .provided installer result (.inr ⟨_, there, Nat.le_refl _⟩) installer'
        (orders ▸ orders')
    | refuse _ there result installer' orders' =>
      exact .refused installer result (.inl ⟨_, there⟩) installer' (orders ▸ orders')
  | prepared stands installer orders =>
    obtain rfl | rfl := stands
    · cases horder with
      | none installer' orders' =>
        refine .prepared ?_ (installer'.trans installer) (orders'.trans orders)
        cases m
        case work => exact .inl rfl
        all_goals exact .inr rfl
      | prepare here | provide here | refuse here => cases here
    · exact absurd m (not_move_rest _)
  | provided before result stands installer orders =>
    obtain rfl | ⟨task, rfl, hrank⟩ := stands
    · exact absurd m (not_move_rest _)
    · cases horder with
      | none installer' orders' =>
        exact .provided before result (m.past_install hrank) (installer'.trans installer)
          (orders'.trans orders)
      | prepare here => cases here
      | provide here | refuse here =>
        cases here
        simp [Task.rank] at hrank
  | refused before result stands installer orders =>
    obtain ⟨i, rfl⟩ | rfl | ⟨rfl, -⟩ := stands
    · cases horder with
      | none installer' orders' =>
        refine .refused before result (.inr (.inl ?_)) (installer'.trans installer)
          (orders'.trans orders)
        cases m with
        | work busy => cases busy
        | concludeFault => rfl
      | prepare here | provide here | refuse here => cases here
    · cases horder with
      | none installer' orders' =>
        refine .refused before result (.inr ?_) (installer'.trans installer)
          (orders'.trans orders)
        cases m with
        | work => exact .inl rfl
        | @finish n result =>
          exact .inr ⟨rfl, result?_endJob (h.stage?_ne_none rfl)⟩
      | prepare here | provide here | refuse here => cases here
    · exact absurd m (not_move_rest _)

theorem ordering_of_moves (h : Visits rule (fresh settings world cells current) p s)
    (m : Moves (p, s) (p', s')) : Ordering s.world s.deeds p' s' := by
  suffices ∀ x, Moves (p, s) x → Visits rule (fresh settings world cells current) x.1 x.2 ∧
      Ordering s.world s.deeds x.1 x.2 from (this _ m).2
  intro x m
  induction m with
  | refl => exact ⟨h, .unasked rfl rfl⟩
  | tail _ m ih => exact ⟨ih.1.move m, ih.2.move m ih.1⟩

end Chunkwise.Session
