import Chunkwise.Proofs.Session.Visits

/-!
Where a job is in its work. It never goes back, so each deed of a job that belongs to one place of
its way is done once at most.
-/
namespace Chunkwise.Session
open Chunkwise.Execution

/-- A job waits at a stage, or it is its turn. -/
inductive Place where
  | waiting (stage : Option Stage)
  | working (task : Task)

def place (n : Nat) (p : Point) (s : Session) : Place :=
  match p.task? n with
  | some task => .working task
  | none => .waiting (s.stage? n)

/-! How far a job has come. -/

def Stage.rank : Stage → Nat
  | .starting => 0
  | .awaitingInterpreter _ => 2
  | .awaitingBridge _ _ => 5
  | .queuedToResolve _ => 7
  | .installing _ _ _ => 9
  | .queuedToRun _ => 11
  | .running _ _ => 12
  | .stuck | .ended _ => 13

def Task.rank : Task → Nat
  | .seek => 0
  | .watch _ => 1
  | .learn _ _ => 2
  | .enter _ => 3
  | .cross _ => 4
  | .onward _ | .resolve _ => 6
  | .search _ _ _ => 8
  | .install _ _ => 9
  | .conclude _ _ => 10
  | .execute _ => 11
  | .follow _ => 12
  | .finish _ => 13

def Place.rank : Place → Nat
  | .waiting none => 0
  | .waiting (some stage) => stage.rank
  | .working task => task.rank

/-- The job that does something. -/
def Deed.job? : Deed → Option Nat
  | .awaitConstruction n _ | .enter n _ | .awaitAttempt n _ | .search n | .probe n _ _
  | .request n _ | .installed n _ _ | .searched n | .run n _ => some n
  | .prepare _ | .prepared _ _ | .choose _ _ | .load _ _ | .loadAll _ _ | .seek _ _ | .bind _ _
  | .wrap _ _ | .fetch _ | .adapt _ | .settled _ _ | .crossed _ _ => none

/-- How far the job that does something has come by that. -/
def Deed.rank : Deed → Nat
  | .awaitConstruction _ _ => 2
  | .enter _ _ => 4
  | .awaitAttempt _ _ => 5
  | .search _ | .probe _ _ _ => 8
  | .request _ _ => 9
  | .installed _ _ _ => 10
  | .searched _ => 11
  | .run _ _ => 12
  | .prepare _ | .prepared _ _ | .choose _ _ | .load _ _ | .loadAll _ _ | .seek _ _ | .bind _ _
  | .wrap _ _ | .fetch _ | .adapt _ | .settled _ _ | .crossed _ _ => 0

variable {rule : Rule} {s₀ s s' : Session} {p p' : Point} {n c a : Nat}

theorem exists_run {deeds : List Deed} (h : ∃ deed ∈ deeds, deed.rank = 12 ∧ deed.job? = some n) :
    ∃ before i after, deeds = before ++ .run n i :: after := by
  obtain ⟨deed, hdeed, hrank, hjob⟩ := h
  cases deed with
  | run m i =>
    obtain rfl := Option.some.inj hjob
    obtain ⟨before, after, hs⟩ := List.append_of_mem hdeed
    exact ⟨before, i, after, hs⟩
  | _ => simp [Deed.rank] at hrank

/-- It is the turn of a job. -/
def Point.isAt (n : Nat) (p : Point) : Prop :=
  p = .picked (.job n) ∨ ∃ task, p = .job n task

theorem stage?_setJob (n : Nat) (stage : Stage) (s : Session) :
    (s.setJob n stage).stage? n = (s.stage? n).map fun _ => stage := by
  simp only [stage?, setJob, List.getElem?_modify]
  cases s.jobs[n]? <;> simp

theorem stage?_setJob_ne {m : Nat} (h : m ≠ n) (stage : Stage) (s : Session) :
    (s.setJob m stage).stage? n = s.stage? n := by
  simp only [stage?, setJob, List.getElem?_modify, if_neg h]
  cases s.jobs[n]? <;> rfl

@[simp] theorem stage?_wake (event : Event) : (s.wake event).stage? n = s.stage? n := rfl

theorem stage?_watchAttempt_ne {m : Nat} (h : m ≠ n) (i a : Nat) (s : Session) :
    (s.watchAttempt m i a).stage? n = s.stage? n :=
  stage?_setJob_ne h _ { s.did (.awaitAttempt m a) with
    attempts := s.attempts.modify a fun made => { made with watchers := made.watchers ++ [m] } }

theorem ne_of_not_isAt {m : Nat} {task : Task} (h : ¬(Point.job m task).isAt n) : m ≠ n :=
  fun e => h (.inr ⟨task, by rw [e]⟩)

theorem ne_of_not_picked {m : Nat} (h : ¬(Point.picked (.job m)).isAt n) : m ≠ n :=
  fun e => h (.inl (by rw [e]))

theorem Point.task?_eq_none (h : ¬p.isAt n) : p.task? n = none := by
  cases p with
  | job m task => exact if_neg (ne_of_not_isAt h)
  | _ => rfl

/-- Nobody moves a job but itself. -/
theorem Move.place_eq (m : Move (p, s) (p', s')) (h : ¬p.isAt n) :
    place n p' s' = place n p s := by
  have htask : p'.task? n = none := by
    cases m
    all_goals first
      | rfl
      | exact if_neg (ne_of_not_isAt h)
      | exact if_neg (ne_of_not_picked h)
      | exact Point.task?_eq_none h
  have hstage : s'.stage? n = s.stage? n := by
    cases m
    case newAttempt => exact stage?_watchAttempt_ne (ne_of_not_isAt h) _ _ _
    all_goals first
      | rfl
      | simp only [stage?_wake, endJob, stage?_setJob_ne (ne_of_not_isAt h),
          stage?_watchAttempt_ne (ne_of_not_isAt h)] <;> rfl
  simp only [place, Point.task?_eq_none h, htask, hstage]

@[simp] theorem place_rest : place n .rest s = .waiting (s.stage? n) := rfl

@[simp] theorem place_picked (event : Event) : place n (.picked event) s = .waiting (s.stage? n) :=
  rfl

@[simp] theorem place_job (task : Task) : place n (.job n task) s = .working task := by
  simp [place, Point.task?]

theorem place_setJob (hn : s.stage? n ≠ none) (stage : Stage) :
    place n .rest (s.setJob n stage) = .waiting (some stage) := by
  obtain ⟨old, hold⟩ := Option.ne_none_iff_exists'.mp hn
  simp [stage?_setJob, hold]

/-- A job at work has been submitted. -/
theorem Visits.stage?_ne_none (h : Visits rule s₀ p s) {task : Task} (hp : p = .job n task) :
    s.stage? n ≠ none := by
  induction h generalizing task with
  | move _ m ih =>
    subst hp
    cases m
    all_goals first
      | exact ih rfl
      | exact Option.ne_none_iff_exists'.mpr ⟨_, by assumption⟩
  | _ => cases hp

theorem job_of_stage? (h : s.stage? n ≠ none) : ∃ job, s.jobs[n]? = some job := by
  cases hjob : s.jobs[n]? with
  | none => simp [stage?, hjob] at h
  | some job => exact ⟨job, rfl⟩

theorem request?_of_stage? (h : s.stage? n ≠ none) : s.request? n ≠ none := by
  obtain ⟨job, hjob⟩ := job_of_stage? h
  simp [request?, hjob]

/-- A job never goes back. -/
theorem Move.rank_le (m : Move (p, s) (p', s'))
    (hn : ∀ task, p = .job n task → s.stage? n ≠ none) :
    (place n p s).rank ≤ (place n p' s').rank := by
  by_cases hat : p.isAt n
  · rcases hat with rfl | ⟨task, rfl⟩
    · cases m
      all_goals first
        | exact Nat.le_refl _
        | simp [*, Place.rank, Task.rank, Stage.rank]
    · obtain ⟨job, hjob⟩ := job_of_stage? (hn task rfl)
      cases m
      all_goals simp [Place.rank, Task.rank, Stage.rank, stage?, hjob, wake, did, setJob, endJob,
        Session.watchAttempt, Session.newAttempt, mapCrossing, mapLock, mapCell]
  · exact Nat.le_of_eq (by rw [m.place_eq hat])

theorem Occasion.isAt {deed : Deed} (h : Occasion p s deed) (hn : deed.job? = some n) :
    p.isAt n := by
  cases h
  case strive h => cases deed <;> simp_all [Deed.job?, Deed.attempt?]
  case searchNext | runNext => exact .inl (by cases hn; rfl)
  all_goals
    first
      | cases hn; done
      | exact .inr ⟨_, by cases hn; rfl⟩

/-- Where a job is whose code begins to run. -/
theorem Occasion.run_place {i : Nat} (h : Occasion p s (.run n i)) :
    place n p s = .working (.execute i) ∨ place n p s = .waiting (some (.queuedToRun i)) := by
  cases h
  case strive h => cases h
  case run => exact .inl (place_job _)
  case runNext hstage => exact .inr (by rw [place_picked, hstage])

/-- A job that does something was asked for it. -/
theorem Occasion.request? {deed : Deed} (h : Occasion p s deed) (hv : Visits rule s₀ p s)
    (hn : deed.job? = some n) : s.request? n ≠ none := by
  rcases h.isAt hn with rfl | ⟨task, rfl⟩
  · cases h
    case searchNext hstage _ =>
      exact request?_of_stage? (by rw [hstage]; exact Option.some_ne_none _)
    case runNext hstage =>
      exact request?_of_stage? (by rw [hstage]; exact Option.some_ne_none _)
  · exact request?_of_stage? (hv.stage?_ne_none rfl)

/-- A deed shows how far its job has come. -/
theorem Move.deed_rank_le {deed : Deed} (m : Move (p, s) (p', s'))
    (hn : ∀ task, p = .job n task → s.stage? n ≠ none) (ho : Occasion p s deed)
    (hdeeds : s'.deeds = s.deeds ++ [deed]) (h : deed.job? = some n) :
    deed.rank ≤ (place n p' s').rank := by
  rcases ho.isAt h with rfl | ⟨task, rfl⟩
  · cases ho
    all_goals
      cases m
      all_goals simp_all [Deed.rank, Place.rank, Task.rank]
  · obtain ⟨job, hjob⟩ := job_of_stage? (hn task rfl)
    cases ho
    all_goals
      cases m
      all_goals simp_all [Deed.rank, Place.rank, Task.rank, Stage.rank, stage?, wake, did, setJob,
        Session.watchAttempt, Session.newAttempt, mapCrossing, mapLock, mapCell]

theorem stage?_submit (request : Request) (s : Session) :
    (s.submit request).stage? n = if n = s.jobs.length then some .starting else s.stage? n := by
  simp only [submit, stage?, wake, List.getElem?_append]
  grind

theorem place_submit (request : Request) (h : s.stage? n ≠ none) :
    place n .rest (s.submit request) = place n .rest s := by
  have hn : n ≠ s.jobs.length := by
    rintro rfl
    simp [stage?] at h
  simp [stage?_submit, hn]

theorem rank_submit (request : Request) (s : Session) :
    (place n .rest (s.submit request)).rank = (place n .rest s).rank := by
  simp only [place_rest, stage?_submit]
  split
  next h => simp [stage?, h, Place.rank, Stage.rank]
  next => rfl

/-- The record shows how far each job has come at least. -/
theorem Visits.rank_le (h : Visits rule s₀ p s) (h₀ : s₀.deeds = []) {deed : Deed}
    (hdeed : deed ∈ s.deeds) (hn : deed.job? = some n) : deed.rank ≤ (place n p s).rank := by
  induction h with
  | start => simp [h₀] at hdeed
  | move h m ih =>
    have hjob : ∀ task, _ = Point.job n task → _ := fun _ => h.stage?_ne_none
    rcases m.deeds with hsame | ⟨last, hlast, hnew⟩
    · exact Nat.le_trans (ih (hsame ▸ hdeed)) (m.rank_le hjob)
    · rw [hnew, List.mem_append, List.mem_singleton] at hdeed
      rcases hdeed with hold | rfl
      · exact Nat.le_trans (ih hold) (m.rank_le hjob)
      · exact m.deed_rank_le hjob hlast hnew hn
  | submit request _ _ ih => exact (rank_submit request _).symm ▸ ih hdeed
  | pick _ _ _ ih | change _ _ _ _ _ ih | close _ _ _ _ _ _ ih => exact ih hdeed

theorem Visits.not_run (h : Visits rule s₀ p s) (h₀ : s₀.deeds = [])
    (hrank : (place n p s).rank < 12) (i : Nat) : .run n i ∉ s.deeds := fun hdeed =>
  Nat.not_le_of_lt hrank (h.rank_le h₀ hdeed rfl)

/-- By a deed a job gets further. Only packages are probed one after another. -/
theorem Occasion.rank_lt {deed : Deed} (h : Occasion p s deed) (hn : deed.job? = some n)
    (hprobe : ∀ root answer, deed ≠ .probe n root answer) : (place n p s).rank < deed.rank := by
  cases h
  case strive h => cases deed <;> simp_all [Deed.job?, Deed.attempt?]
  all_goals cases hn <;> simp_all [Place.rank, Task.rank, Stage.rank, Deed.rank]

/-- What a job has done before is of an earlier part of its way. -/
theorem Visits.rank_lt (h : Visits rule s₀ p s) (h₀ : s₀.deeds = []) {deed deed' : Deed}
    (ho : Occasion p s deed) (hn : deed.job? = some n)
    (hprobe : ∀ root answer, deed ≠ .probe n root answer) (hdeed' : deed' ∈ s.deeds)
    (hn' : deed'.job? = some n) : deed'.rank < deed.rank :=
  Nat.lt_of_le_of_lt (h.rank_le h₀ hdeed' hn') (ho.rank_lt hn hprobe)

/-- Of two elements of a list one comes first. -/
theorem split_of_mem_of_ne {α : Type} {l : List α} {x y : α} (hx : x ∈ l) (hy : y ∈ l)
    (hne : x ≠ y) : (∃ before after, l = before ++ x :: after ∧ y ∈ before) ∨
      ∃ before after, l = before ++ y :: after ∧ x ∈ before := by
  obtain ⟨before, after, rfl⟩ := List.append_of_mem hx
  rw [List.mem_append, List.mem_cons] at hy
  rcases hy with hbefore | rfl | hafter
  · exact .inl ⟨before, after, rfl, hbefore⟩
  · exact absurd rfl hne
  · obtain ⟨first, rest, rfl⟩ := List.append_of_mem hafter
    exact .inr ⟨before ++ x :: first, rest, by simp, by simp⟩

/-- What a job does by getting further it does once. -/
theorem Visits.deed_unique (h : Visits rule s₀ p s) (h₀ : s₀.deeds = []) {deed deed' : Deed}
    (hdeed : deed ∈ s.deeds) (hdeed' : deed' ∈ s.deeds) (hn : deed.job? = some n)
    (hn' : deed'.job? = some n) (hrank : deed.rank = deed'.rank) (hprobe : deed.rank ≠ 8) :
    deed = deed' := by
  have hnot {earlier later : Deed} {before after : List Deed}
      (hs : s.deeds = before ++ later :: after) (hmem : earlier ∈ before)
      (hearlier : earlier.job? = some n) (hlater : later.job? = some n)
      (hsame : earlier.rank = later.rank) (hne : later.rank ≠ 8) : False := by
    obtain ⟨p₁, s₁, hv, ho, rfl, -⟩ := h.occasion h₀ hs
    have hlt := hv.rank_lt h₀ ho hlater (by rintro root answer rfl; exact hne rfl) hmem hearlier
    omega
  by_contra hne
  obtain ⟨before, after, hs, hmem⟩ | ⟨before, after, hs, hmem⟩ := split_of_mem_of_ne hdeed hdeed' hne
  · exact hnot hs hmem hn' hn hrank.symm hprobe
  · exact hnot hs hmem hn hn' hrank (hrank ▸ hprobe)

end Chunkwise.Session
