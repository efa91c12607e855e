import Chunkwise.Proofs.Session.Bridges
import Chunkwise.Proofs.Session.Constructions

/-!
Jobs that wait for a construction or an attempt, in a session that is not closed. If that fails
they end with its fault, and no code of theirs runs.
-/
namespace Chunkwise.Session
open Chunkwise.Execution

variable {settings : Settings} {world : World} {cells : List Cell} {current : Option Nat}
variable {rule : Rule} {s s' : Session} {p p' : Point} {n c a i : Nat}

/-- Where a job is that waits for a construction which has not ended or has failed. -/
inductive AwaitsInterpreter (c : Nat) (stage : Option Making) : Place → Prop
  | waiting : AwaitsInterpreter c stage (.waiting (some (.awaitingInterpreter c)))
  | learn {fault : Fault} (h : stage = some (.ended (.error fault))) :
      AwaitsInterpreter c stage (.working (.learn c (.error fault)))
  | finish {fault : Fault} (h : stage = some (.ended (.error fault))) :
      AwaitsInterpreter c stage (.working (.finish (.error fault)))
  | ended {fault : Fault} (h : stage = some (.ended (.error fault))) :
      AwaitsInterpreter c stage (.waiting (some (.ended (.error fault))))

theorem AwaitsInterpreter.mono {stage stage' : Option Making} {x : Place}
    (h : AwaitsInterpreter c stage x) (hended : ∀ {fault : Fault},
      stage = some (.ended (.error fault)) → stage' = some (.ended (.error fault))) :
    AwaitsInterpreter c stage' x := by
  cases h with
  | waiting => exact .waiting
  | learn h => exact .learn (hended h)
  | finish h => exact .finish (hended h)
  | ended h => exact .ended (hended h)

/-- A job that waits for a construction goes on to its end with the fault of that. -/
theorem AwaitsInterpreter.move (h : AwaitsInterpreter c s.makings[c]? (place n p s)) (hs : Constructed p s)
    (m : Move (p, s) (p', s')) (hn : ∀ task, p = .job n task → s.stage? n ≠ none) :
    (∃ i, s'.makings[c]? = some (.ended (.ok i))) ∨
      AwaitsInterpreter c s'.makings[c]? (place n p' s') := by
  by_cases hat : p.isAt n
  · rcases hat with rfl | ⟨task, rfl⟩
    · rw [place_picked] at h
      generalize hstage : s.stage? n = stage at h
      cases h with
      | waiting =>
        cases m
        case idle =>
          rw [place_rest, hstage]
          exact .inr .waiting
        case learn c' result hc hstage' =>
          cases hstage.symm.trans hstage'
          rw [making?_eq] at hc
          rw [place_job]
          cases result with
          | ok i => exact .inl ⟨i, hc⟩
          | error fault => exact .inr (.learn hc)
        all_goals simp_all [Point.isBusy]
      | ended hc =>
        cases m
        case idle =>
          rw [place_rest, hstage]
          exact .inr (.ended hc)
        all_goals simp_all [Point.isBusy]
    · rw [place_job] at h
      cases h with
      | learn hc =>
        cases m
        case forget =>
          rw [place_job]
          exact .inr (.finish hc)
        case learnError =>
          rw [place_job]
          exact .inr (.finish hc)
        case work busy _ _ => cases busy
      | finish hc =>
        cases m
        case work =>
          rw [place_job]
          exact .inr (.finish hc)
        case finish =>
          rw [endJob, place_setJob (hn _ rfl)]
          exact .inr (.ended hc)
  · rw [m.place_eq hat]
    exact .inr (h.mono fun hc => (m.founding hs.attends).ended_stays hs.attends hc)

/-- What a job does whose construction fails: no code of it runs. -/
def Joins (n c : Nat) (p : Point) (s : Session) : Prop :=
  (∃ i, s.makings[c]? = some (.ended (.ok i))) ∨
    (∀ i, .run n i ∉ s.deeds) ∧ AwaitsInterpreter c s.makings[c]? (place n p s)

theorem AwaitsInterpreter.not_run (h : AwaitsInterpreter c s.makings[c]? (place n p s)) :
    ¬Occasion p s (.run n i) := by
  intro ho
  rcases ho.run_place with hplace | hplace <;> rw [hplace] at h <;> cases h

theorem joins_of_evaluates (h : Evaluates settings world p s)
    (hdeed : .awaitConstruction n c ∈ s.deeds) : Joins n c p s := by
  induction h with
  | start => cases hdeed
  | @move p p' s s' h m ih =>
    have hs := constructed_of_evaluates h
    have hn : ∀ task, p = .job n task → s.stage? n ≠ none := fun _ => h.stage?_ne_none
    rcases m.deed_cases hdeed with hold | hnew
    · rcases ih hold with ⟨i, hi⟩ | ⟨hrun, hawaits⟩
      · exact .inl ⟨i, (m.founding hs.attends).ended_stays hs.attends hi⟩
      · refine (hawaits.move hs m hn).imp_right fun hawaits' => ⟨fun i hi => ?_, hawaits'⟩
        exact (m.deed_cases hi).elim (hrun i) hawaits.not_run
    · have hat : p = .job n (.watch c) := by
        cases hnew
        case strive ho => cases ho
        case awaitConstruction => rfl
      subst hat
      have hrun (i : Nat) : .run n i ∉ s'.deeds := by
        intro hi
        rcases m.deed_cases hi with hold | ⟨⟨⟩⟩
        exact h.not_run rfl (by simp [Place.rank, Task.rank]) i hold
      cases m
      case work busy _ _ => cases busy
      case watchEnded result hc =>
        rw [making?_eq] at hc
        cases result with
        | ok i => exact .inl ⟨i, hc⟩
        | error fault =>
          refine .inr ⟨hrun, ?_⟩
          rw [place_job]
          exact .learn hc
      case watch =>
        have hplace := place_setJob (hn _ rfl) (.awaitingInterpreter c)
        exact .inr ⟨hrun, (congrArg (AwaitsInterpreter c _) hplace).mpr .waiting⟩
  | submit request _ _ ih =>
    refine (ih hdeed).imp_right (And.imp_right fun hawaits => ?_)
    rw [place_submit]
    · exact hawaits
    · intro hnone
      rw [place_rest, hnone] at hawaits
      cases hawaits
  | pick _ _ _ ih | change _ _ _ _ _ ih => exact ih hdeed
  | close _ _ _ _ _ allowed => exact allowed.elim

/-! Attempts. -/

/-- Where a job is that waits for an attempt which has not ended or has failed. -/
inductive AwaitsBridge (a : Nat) (stage : Option Loading) : Place → Prop
  | waiting {i : Nat} : AwaitsBridge a stage (.waiting (some (.awaitingBridge i a)))
  | finish {fault : Fault} (h : stage = some (.ended (some fault))) :
      AwaitsBridge a stage (.working (.finish (.error fault)))
  | ended {fault : Fault} (h : stage = some (.ended (some fault))) :
      AwaitsBridge a stage (.waiting (some (.ended (.error fault))))

theorem AwaitsBridge.mono {stage stage' : Option Loading} {x : Place}
    (h : AwaitsBridge a stage x) (hended : ∀ {fault : Option Fault},
      stage = some (.ended fault) → stage' = some (.ended fault)) : AwaitsBridge a stage' x := by
  cases h with
  | waiting => exact .waiting
  | finish h => exact .finish (hended h)
  | ended h => exact .ended (hended h)

/-- A job that waits for an attempt goes on to its end with the fault of that. -/
theorem AwaitsBridge.move (h : AwaitsBridge a (s.loading? a) (place n p s)) (hb : Bridged p s)
    (m : Move (p, s) (p', s')) (hn : ∀ task, p = .job n task → s.stage? n ≠ none) :
    s'.loading? a = some (.ended none) ∨ AwaitsBridge a (s'.loading? a) (place n p' s') := by
  by_cases hat : p.isAt n
  · rcases hat with rfl | ⟨task, rfl⟩
    · rw [place_picked] at h
      generalize hstage : s.stage? n = stage at h
      cases h with
      | waiting =>
        cases m
        case idle =>
          rw [place_rest, hstage]
          exact .inr .waiting
        case arrived ha hstage' =>
          cases hstage.symm.trans hstage'
          exact .inl ha
        case strand ha hstage' =>
          cases hstage.symm.trans hstage'
          rw [place_job]
          exact .inr (.finish ha)
        all_goals simp_all [Point.isBusy]
      | ended ha =>
        cases m
        case idle =>
          rw [place_rest, hstage]
          exact .inr (.ended ha)
        all_goals simp_all [Point.isBusy]
    · rw [place_job] at h
      cases h with
      | finish ha =>
        cases m
        case work =>
          rw [place_job]
          exact .inr (.finish ha)
        case finish =>
          rw [endJob, place_setJob (hn _ rfl)]
          exact .inr (.ended ha)
  · rw [m.place_eq hat]
    exact .inr (h.mono (hb.landed_stays m))

theorem AwaitsBridge.not_run (h : AwaitsBridge a (s.loading? a) (place n p s)) :
    ¬Occasion p s (.run n i) := by
  intro ho
  rcases ho.run_place with hplace | hplace <;> rw [hplace] at h <;> cases h

/-- What a job does whose attempt fails: no code of it runs. -/
def Boards (n a : Nat) (p : Point) (s : Session) : Prop :=
  s.loading? a = some (.ended none) ∨
    (∀ i, .run n i ∉ s.deeds) ∧ AwaitsBridge a (s.loading? a) (place n p s)

theorem place_watchAttempt {a' : Nat} (h : .awaitAttempt n a ∈ (s.watchAttempt n i a').deeds)
    (hold : .awaitAttempt n a ∉ s.deeds) (hn : s.stage? n ≠ none) :
    place n .rest (s.watchAttempt n i a') = .waiting (some (.awaitingBridge i a)) := by
  obtain rfl : a = a' := by
    have hnew := (List.mem_append.mp h).resolve_left hold
    cases List.mem_singleton.mp hnew
    rfl
  exact place_setJob hn (.awaitingBridge i a)

theorem Visits.boards (h : Visits rule (fresh settings world cells current) p s)
    (hdeed : .awaitAttempt n a ∈ s.deeds) : Boards n a p s := by
  induction h with
  | start => cases hdeed
  | @move p p' s s' h m ih =>
    have hb := h.bridged (bridged_fresh settings world cells current)
    have hn : ∀ task, p = .job n task → s.stage? n ≠ none := fun _ => h.stage?_ne_none
    by_cases hold : .awaitAttempt n a ∈ s.deeds
    · rcases ih hold with ha | ⟨hrun, hawaits⟩
      · exact .inl (hb.landed_stays m ha)
      · refine (hawaits.move hb m hn).imp_right fun hawaits' => ⟨fun i hi => ?_, hawaits'⟩
        exact (m.deed_cases hi).elim (hrun i) hawaits.not_run
    · have hat : ∃ i, p = .job n (.cross i) := by
        cases (m.deed_cases hdeed).resolve_left hold
        case strive ho => cases ho
        case awaitAttempt => exact ⟨_, rfl⟩
      obtain ⟨i, rfl⟩ := hat
      have hrun (i : Nat) : .run n i ∉ s'.deeds := by
        intro hi
        rcases m.deed_cases hi with hold | ⟨⟨⟩⟩
        exact h.not_run rfl (by simp [Place.rank, Task.rank]) i hold
      cases m
      case work busy _ _ => cases busy
      case crossed => exact absurd hdeed hold
      case watchAttempt =>
        have hplace := place_watchAttempt hdeed hold (hn _ rfl)
        exact .inr ⟨hrun, (congrArg (AwaitsBridge a _) hplace).mpr .waiting⟩
      case newAttempt =>
        have hplace := place_watchAttempt (s := s.newAttempt i) hdeed hold (hn _ rfl)
        exact .inr ⟨hrun, (congrArg (AwaitsBridge a _) hplace).mpr .waiting⟩
  | submit request _ _ ih =>
    refine (ih hdeed).imp_right (And.imp_right fun hawaits => ?_)
    rw [place_submit]
    · exact hawaits
    · intro hnone
      rw [place_rest, hnone] at hawaits
      cases hawaits
  | pick _ _ _ ih | change _ _ _ _ _ ih | close _ _ _ _ _ _ ih => exact ih hdeed

end Chunkwise.Session
