import Chunkwise.Proofs.Session.Wakes

/-!
Evaluations in a session that is not closed. They share one interpreter: whoever needs it joins the
construction under way, and when one has succeeded all go on with what it made.
-/
namespace Chunkwise.Session
open Chunkwise.Execution

variable {settings : Settings} {world : World} {s s' : Session} {p p' : Point} {n c a i : Nat}

def Stage.interpreter? : Stage → Option Nat
  | .awaitingBridge i _ | .queuedToResolve i | .installing i _ _ | .queuedToRun i
  | .running i _ => some i
  | .starting | .awaitingInterpreter _ | .stuck | .ended _ => none

def Task.interpreter? : Task → Option Nat
  | .enter i | .cross i | .onward i | .resolve i | .search i _ _ | .install i _ | .conclude i _
  | .execute i | .follow i => some i
  | .seek | .watch _ | .learn _ _ | .finish _ => none

/-- The interpreter that a job goes on in. -/
def Place.interpreter? : Place → Option Nat
  | .waiting stage => stage.bind Stage.interpreter?
  | .working task => task.interpreter?

/-- There is no other interpreter than that of new evaluations. -/
structure Housed (p : Point) (s : Session) : Prop where
  request (n i : Nat) : s.request? n ≠ some (.bootstrap i)
  place {n i : Nat} : (place n p s).interpreter? = some i → s.current = some i
  attempt {i : Nat} : i ∈ s.attempts.map (·.interpreter) → s.current = some i
  enter {n i : Nat} : .enter n i ∈ s.deeds → s.current = some i
  run {n i : Nat} : .run n i ∈ s.deeds → s.current = some i

theorem Occasion.run_interpreter? (h : Occasion p s (.run n i)) :
    (place n p s).interpreter? = some i := by
  rcases h.run_place with hplace | hplace <;> rw [hplace] <;> rfl

theorem Founding.current_stays (f : Founding p s p' s') (h : Constructed p s)
    (hi : s.current = some i) : s'.current = some i := by
  cases f with
  | stay _ _ current | start _ _ _ _ current | advance _ _ _ _ _ current
  | forget _ _ _ _ _ current => rw [current, hi]
  | succeed here => simp [(h.making here).2.2] at hi

/-- A job goes on in the interpreter in which it was, or comes to one. -/
theorem Move.interpreter? (m : Move (p, s) (p', s'))
    (hn : ∀ task, p = .job n task → s.stage? n ≠ none)
    (hi : (place n p' s').interpreter? = some i) :
    (place n p s).interpreter? = some i ∨ s.current = some i ∨
      (∃ c, p = .job n (.learn c (.ok i))) ∨ s.request? n = some (.bootstrap i) := by
  by_cases hat : p.isAt n
  · rcases hat with rfl | ⟨task, rfl⟩
    · cases m
      case work busy _ _ => cases busy
      case idle => exact .inl hi
      all_goals simp_all [Place.interpreter?, Task.interpreter?, Stage.interpreter?]
    · obtain ⟨job, hjob⟩ := job_of_stage? (hn task rfl)
      cases m
      all_goals
        simp_all [Place.interpreter?, Task.interpreter?, Stage.interpreter?, stage?, setJob, wake,
          endJob, did, mapLock, mapCell, Session.watchAttempt, Session.newAttempt, mapCrossing]
  · rw [m.place_eq hat] at hi
    exact .inl hi

theorem hosts_setAttempt (a : Nat) (stage : Loading) (s : Session) :
    (s.setAttempt a stage).attempts.map (·.interpreter) = s.attempts.map (·.interpreter) :=
  map_modify_eq (g := (·.interpreter)) (f := fun made : Attempt => { made with stage := stage })
    (fun _ => rfl) a s.attempts

theorem hosts_watchAttempt (n i a : Nat) (s : Session) :
    (s.watchAttempt n i a).attempts.map (·.interpreter) = s.attempts.map (·.interpreter) :=
  map_modify_eq (g := (·.interpreter))
    (f := fun made : Attempt => { made with watchers := made.watchers ++ [n] }) (fun _ => rfl) a
    s.attempts

/-- A new attempt is for the interpreter of the job that starts it. -/
theorem Move.hosts (m : Move (p, s) (p', s')) :
    s'.attempts.map (·.interpreter) = s.attempts.map (·.interpreter) ∨
      ∃ n i, p = .job n (.cross i) ∧
        s'.attempts.map (·.interpreter) = s.attempts.map (·.interpreter) ++ [i] := by
  cases m
  case loadLater | queueAdapter | adaptLater | stickAttempt => exact .inl (hosts_setAttempt ..)
  case arrive | failAttempt | failAdapted => exact .inl (hosts_setAttempt ..)
  case watchAttempt => exact .inl (hosts_watchAttempt ..)
  case newAttempt =>
    exact .inr ⟨_, _, rfl, (hosts_watchAttempt ..).trans List.map_append⟩
  all_goals exact .inl rfl

theorem Housed.keep (h : Housed p s) (hs : Constructed p s) (m : Move (p, s) (p', s'))
    (hn : ∀ n task, p = .job n task → s.stage? n ≠ none) : Housed p' s' := by
  have hkeep {i : Nat} := (m.founding hs.attends).current_stays (i := i) hs
  refine ⟨fun n i hr => ?_, fun {n i} hi => ?_, fun {i} hi => ?_, fun {n i} hi => ?_,
    fun {n i} hi => ?_⟩
  · exact h.request n i (m.request?_eq n ▸ hr)
  · rcases m.interpreter? (hn n) hi with hi | hi | ⟨c, rfl⟩ | hi
    · exact hkeep (h.place hi)
    · exact hkeep hi
    · have hended : s.making? c = some (.ended (.ok i)) := hs.attends
      exact hkeep (hs.success (making?_eq c s ▸ hended))
    · exact absurd hi (h.request n i)
  · rcases m.hosts with hsame | ⟨n, j, rfl, hnew⟩
    · exact hkeep (h.attempt (hsame ▸ hi))
    · rw [hnew, List.mem_append, List.mem_singleton] at hi
      rcases hi with hold | rfl
      · exact hkeep (h.attempt hold)
      · refine hkeep (h.place (n := n) ?_)
        rw [place_job]
        rfl
  · rcases m.deed_cases hi with hold | hnew
    · exact hkeep (h.enter hold)
    · refine hkeep (h.place (n := n) ?_)
      cases hnew
      case strive ho => cases ho
      case enter =>
        rw [place_job]
        rfl
  · rcases m.deed_cases hi with hold | hnew
    · exact hkeep (h.run hold)
    · exact hkeep (h.place hnew.run_interpreter?)

theorem housed_of_evaluates (h : Evaluates settings world p s) : Housed p s := by
  induction h with
  | start => exact ⟨nofun, nofun, nofun, nofun, nofun⟩
  | move h m ih =>
    exact ih.keep (constructed_of_evaluates h) m fun n task => h.stage?_ne_none
  | pick _ _ _ ih | change _ _ _ _ _ ih =>
    exact ⟨ih.request, ih.place, ih.attempt, ih.enter, ih.run⟩
  | submit request _ allowed ih =>
    refine ⟨fun n i hr => ?_, fun {n i} hi => ?_, ih.attempt, ih.enter, ih.run⟩
    · rw [request?_submit] at hr
      split at hr
      next =>
        cases hr
        exact allowed.elim
      next => exact ih.request n i hr
    · rw [place_rest, stage?_submit] at hi
      split at hi
      next => cases hi
      next => exact ih.place hi
  | close _ _ _ _ _ allowed => exact allowed.elim

/-! Failed constructions. -/

theorem Occasion.awaitConstruction_at (h : Occasion p s (.awaitConstruction n c)) :
    p = .job n (.watch c) := by
  cases h
  case strive h => cases h
  case awaitConstruction => rfl

/-- Nothing is constructed for nobody. -/
theorem awaited_of_evaluates (h : Evaluates settings world p s) (hc : c < s.makings.length) :
    (∃ n, .awaitConstruction n c ∈ s.deeds) ∨ ∃ n, p = .job n (.watch c) := by
  induction h with
  | start => cases hc
  | @move p p' s s' h m ih =>
    have hs := constructed_of_evaluates h
    by_cases hold : c < s.makings.length
    · rcases ih hold with ⟨n, hdeed⟩ | ⟨n, rfl⟩
      · exact .inl ⟨n, m.mem_deeds hdeed⟩
      · refine .inl ⟨n, ?_⟩
        cases m
        case work busy _ _ => cases busy
        case watchEnded => exact List.mem_append_right _ (List.mem_singleton_self _)
        case watch => exact List.mem_append_right _ (List.mem_singleton_self _)
    · cases m.founding hs.attends with
      | stay makings | forget _ _ _ makings => exact absurd (makings ▸ hc) hold
      | advance _ _ makings | succeed _ _ makings =>
        rw [makings, List.length_set] at hc
        exact absurd hc hold
      | @start n there _ makings =>
        refine .inr ⟨n, ?_⟩
        have hlength : s.makings.length = s.constructions.length := List.length_map _
        simp only [makings, List.length_append, List.length_singleton] at hc
        rw [there, show c = s.constructions.length by omega]
  | pick _ _ _ ih | submit _ _ _ ih | change _ _ _ _ _ ih =>
    exact .inl ((ih hc).resolve_right nofun)
  | close _ _ _ _ _ allowed => exact allowed.elim

/-- What a move leaves of a failed construction that evaluations join. -/
theorem Founding.failed_before {fault : Fault} (f : Founding p s p' s') (hs : Constructed p s)
    (hended : s'.makings[c]? = some (.ended (.error fault))) (hjoined : s'.construction = some c) :
    s.construction = some c ∧ (s.makings[c]? = some (.ended (.error fault)) ∨ p = .making c) := by
  cases f with
  | stay makings construction => exact ⟨construction ▸ hjoined, .inl (makings ▸ hended)⟩
  | start _ _ makings construction =>
    obtain rfl := Option.some.inj (construction.symm.trans hjoined)
    have hlength : s.makings.length = s.constructions.length := List.length_map _
    rw [makings, ← hlength, List.getElem?_concat_length] at hended
    cases hended
  | @advance c₀ _ here _ makings _ construction =>
    refine ⟨construction ▸ hjoined, ?_⟩
    by_cases hc : c₀ = c
    · exact .inr (hc ▸ here)
    · rw [makings, List.getElem?_set_ne hc] at hended
      exact .inl hended
  | succeed here _ makings construction =>
    have hmaking := hs.making here
    obtain rfl := Option.some.inj (hmaking.2.1.symm.trans (construction ▸ hjoined))
    obtain ⟨stage, hstage, -⟩ := hmaking.1
    rw [makings, List.getElem?_set_self (List.getElem?_eq_some_iff.mp hstage).1] at hended
    cases hended
  | forget _ _ _ _ construction => cases construction.symm.trans hjoined

/-- Who learns of a failure that can be recovered from makes evaluations forget the construction. -/
theorem AwaitsInterpreter.rank_move {fault : Fault}
    (h : AwaitsInterpreter c s.makings[c]? (place n p s))
    (hended : s.makings[c]? = some (.ended (.error fault))) (hfault : fault.kind.isOrdinary)
    (hjoined : s'.construction = some c) (hrank : (place n p s).rank = 2)
    (m : Move (p, s) (p', s')) : (place n p' s').rank = 2 := by
  by_cases hat : p.isAt n
  · generalize hplace : place n p s = x at h hrank
    cases h with
    | waiting =>
      rcases hat with rfl | ⟨task, rfl⟩
      · have hstage : s.stage? n = some (.awaitingInterpreter c) := by simpa using hplace
        cases m
        case idle => rw [place_rest, hstage]; rfl
        case learn => rw [place_job]; rfl
        all_goals simp_all [Point.isBusy]
      · rw [place_job] at hplace
        cases hplace
    | @learn fault' hfailed =>
      rcases hat with rfl | ⟨task, rfl⟩
      · cases hplace
      · rw [place_job] at hplace
        cases hplace
        obtain rfl : fault = fault' := by
          cases hended.symm.trans hfailed
          rfl
        cases m
        case work busy _ _ => cases busy
        case forget => cases hjoined
        case learnError hkept => exact absurd ⟨hfault, hjoined⟩ hkept
    | finish | ended => cases hrank
  · rw [m.place_eq hat, hrank]

/-- While evaluations join a failed construction nobody has learned of the failure. -/
theorem rank_of_joined {fault : Fault} (h : Evaluates settings world p s)
    (hdeed : .awaitConstruction n c ∈ s.deeds)
    (hended : s.makings[c]? = some (.ended (.error fault))) (hfault : fault.kind.isOrdinary)
    (hjoined : s.construction = some c) : (place n p s).rank = 2 := by
  induction h with
  | start => cases hdeed
  | @move p p' s s' h m ih =>
    have hs := constructed_of_evaluates h
    rcases m.deed_cases hdeed with hold | hnew
    · obtain ⟨hjoined₀, hended₀⟩ := (m.founding hs.attends).failed_before hs hended hjoined
      have hjoins := joins_of_evaluates h hold
      rcases hended₀ with hended₀ | rfl
      · obtain ⟨i, hok⟩ | ⟨-, hawaits⟩ := hjoins
        · cases hok.symm.trans hended₀
        · exact hawaits.rank_move hended₀ hfault hjoined (ih hold hended₀ hjoined₀) m
      · obtain ⟨⟨stage, hstage, hopen⟩, -⟩ := hs.making rfl
        rw [m.place_eq (by rintro (h | ⟨_, h⟩) <;> cases h)]
        obtain ⟨i, hok⟩ | ⟨-, hawaits⟩ := hjoins
        · cases hstage.symm.trans hok
          cases hopen
        · generalize place n _ s = x at hawaits
          rw [hstage] at hawaits
          cases hawaits with
          | waiting => rfl
          | learn hfailed | finish hfailed | ended hfailed =>
            cases hfailed
            cases hopen
    · obtain rfl := hnew.awaitConstruction_at
      cases m
      case work busy _ _ => cases busy
      case watchEnded => rw [place_job]; rfl
      case watch =>
        have hplace := place_setJob (h.stage?_ne_none rfl) (.awaitingInterpreter c)
        exact (congrArg Place.rank hplace).trans rfl
  | pick _ _ _ ih | change _ _ _ _ _ ih => exact ih hdeed hended hjoined
  | submit request _ _ ih => exact (rank_submit request _).trans (ih hdeed hended hjoined)
  | close _ _ _ _ _ allowed => exact allowed.elim

theorem Stage.rank_of_ne_starting (stage : Stage) (h : stage ≠ .starting) :
    stage.rank = 2 ∨ 4 ≤ stage.rank := by
  cases stage with
  | starting => contradiction
  | awaitingInterpreter => exact .inl rfl
  | _ => exact .inr (by simp [Stage.rank])

/-- A job that has got further than its start waits for a construction or has entered an
interpreter. -/
theorem begun_of_evaluates (h : Evaluates settings world p s)
    (hrank : (place n p s).rank = 2 ∨ 4 ≤ (place n p s).rank) :
    (∃ c, .awaitConstruction n c ∈ s.deeds) ∨ ∃ i, .enter n i ∈ s.deeds := by
  induction h with
  | start => simp [fresh, stage?, Place.rank] at hrank
  | @move p p' s s' h m ih =>
    have hkeep (hold : (place n p s).rank = 2 ∨ 4 ≤ (place n p s).rank) :
        (∃ c, .awaitConstruction n c ∈ s'.deeds) ∨ ∃ i, .enter n i ∈ s'.deeds :=
      (ih hold).imp (Exists.imp fun _ => m.mem_deeds) (Exists.imp fun _ => m.mem_deeds)
    by_cases hold : (place n p s).rank = 2 ∨ 4 ≤ (place n p s).rank
    · exact hkeep hold
    have hat : p.isAt n :=
      Classical.byContradiction fun hat => hold (m.place_eq hat ▸ hrank)
    rcases hat with rfl | ⟨task, rfl⟩
    · cases m
      case startCrossing _ hr => exact absurd hr ((housed_of_evaluates h).request _ _)
      all_goals simp_all [Point.isBusy, Place.rank, Task.rank, Stage.rank]
    · cases m
      case work => exact absurd hrank hold
      case watchEnded | watch => exact .inl ⟨_, List.mem_append_right _ (List.mem_singleton_self _)⟩
      case enterHeavy | enterLight | enterIdle =>
        exact .inr ⟨_, List.mem_append_right _ (List.mem_singleton_self _)⟩
      all_goals simp_all [Place.rank, Task.rank]
  | pick _ _ _ ih | change _ _ _ _ _ ih => exact ih hrank
  | submit request _ _ ih => exact ih (rank_submit request _ ▸ hrank)
  | close _ _ _ _ _ allowed => exact allowed.elim

/-- A failed construction is left behind: evaluations that come join a newer one. -/
structure Surpassed (c bound : Nat) (s : Session) : Prop where
  construction : s.construction ≠ some c
  length : c < s.makings.length
  await {n c' : Nat} : .awaitConstruction n c' ∈ s.deeds → n < bound ∨ c < c'

theorem Surpassed.keep {bound : Nat} (h : Surpassed c bound s) (hs : Constructed p s)
    (m : Move (p, s) (p', s')) : Surpassed c bound s' := by
  refine ⟨?_, ?_, fun {n c'} hdeed => ?_⟩
  · cases m.founding hs.attends with
    | stay _ construction | advance _ _ _ _ construction | succeed _ _ _ construction =>
      rw [construction]
      exact h.construction
    | start _ _ _ construction =>
      have hlength : s.makings.length = s.constructions.length := List.length_map _
      have := h.length
      rw [construction]
      intro e
      have := Option.some.inj e
      omega
    | forget _ _ _ _ construction => simp [construction]
  · have := h.length
    cases m.founding hs.attends with
    | stay makings | forget _ _ _ makings => rwa [makings]
    | start _ _ makings => rw [makings, List.length_append]; omega
    | advance _ _ makings | succeed _ _ makings => rwa [makings, List.length_set]
  · rcases m.deed_cases hdeed with hold | hnew
    · exact h.await hold
    · obtain rfl := hnew.awaitConstruction_at
      have hlast := hs.last hs.attends
      have hlength := h.length
      have hne : c' ≠ c := by
        rintro rfl
        exact h.construction hs.attends
      omega

theorem Visits.surpassed {bound : Nat} {s₁ : Session} (h : Visits .evaluating s₁ p s)
    (hs : Constructed .rest s₁) (h₁ : Surpassed c bound s₁) : Surpassed c bound s := by
  induction h with
  | start => exact h₁
  | move h m ih => exact ih.keep (h.constructed hs) m
  | pick _ _ _ ih | submit _ _ _ ih | change _ _ _ _ _ ih =>
    exact ⟨ih.construction, ih.length, ih.await⟩
  | close _ _ _ _ _ allowed => exact allowed.elim

theorem Visits.ended_stays {s₁ : Session} (h : Visits .evaluating s₁ p s)
    (hs : Constructed .rest s₁) {result : Except Fault Nat}
    (hended : s₁.makings[c]? = some (.ended result)) : s.makings[c]? = some (.ended result) := by
  induction h with
  | start => exact hended
  | move h m ih =>
    have hs := h.constructed hs
    exact (m.founding hs.attends).ended_stays hs.attends ih
  | pick _ _ _ ih | submit _ _ _ ih | change _ _ _ _ _ ih => exact ih
  | close _ _ _ _ _ allowed => exact allowed.elim

/-- When all who waited for a failed construction have ended, it is left behind. -/
theorem surpassed_of_ended {fault : Fault} (h : Evaluates settings world .rest s)
    (hended : s.makings[c]? = some (.ended (.error fault))) (hfault : fault.kind.isOrdinary)
    (hwaiters : ∀ n, .awaitConstruction n c ∈ s.deeds →
      ∃ result, s.stage? n = some (.ended result)) : Surpassed c s.jobs.length s := by
  have hlength := (List.getElem?_eq_some_iff.mp hended).1
  refine ⟨fun hjoined => ?_, hlength, fun {n c'} hdeed => .inl ?_⟩
  · obtain ⟨n, hdeed⟩ := (awaited_of_evaluates h hlength).resolve_right nofun
    obtain ⟨result, hresult⟩ := hwaiters n hdeed
    have hrank := rank_of_joined h hdeed hended hfault hjoined
    rw [place_rest, hresult] at hrank
    cases hrank
  · have hrank := h.rank_le rfl hdeed rfl
    refine Nat.lt_of_not_le fun hle => ?_
    rw [place_rest, stage?, List.getElem?_eq_none hle] at hrank
    cases hrank

/-- A job that enters an interpreter later than a construction failed owes it to a newer one. -/
theorem Surpassed.entered {bound : Nat} (h : Surpassed c bound s) (hs : Constructed p s)
    {fault : Fault} (hended : s.makings[c]? = some (.ended (.error fault)))
    (hi : s.current = some i) : ∃ c', c < c' ∧ s.makings[c']? = some (.ended (.ok i)) := by
  obtain ⟨c', hc'⟩ := hs.current hi
  have hjoined : s.construction = some c' := by
    rcases hs.joined hc' with hjoined | ⟨fault, hfault⟩
    · exact hjoined
    · cases hfault
  have hlast := hs.last hjoined
  have hlength := h.length
  have hne : c' ≠ c := by
    rintro rfl
    cases hc'.symm.trans hended
  exact ⟨c', by omega, hc'⟩

/-- A job whose construction has failed has ended with its fault, or will be told of it. -/
theorem failed_of_evaluates {fault : Fault} (h : Evaluates settings world .rest s)
    (hdeed : .awaitConstruction n c ∈ s.deeds)
    (hended : s.makings[c]? = some (.ended (.error fault))) :
    (∀ i, .run n i ∉ s.deeds) ∧ (s.stage? n = some (.ended (.error fault)) ∨
      s.stage? n = some (.awaitingInterpreter c) ∧ (.relay n ∈ s.ready ∨ .job n ∈ s.ready)) := by
  obtain ⟨i, hok⟩ | ⟨hrun, hawaits⟩ := joins_of_evaluates h hdeed
  · cases hok.symm.trans hended
  refine ⟨hrun, ?_⟩
  rw [place_rest, hended] at hawaits
  generalize hstage : s.stage? n = stage at hawaits
  cases hawaits with
  | waiting =>
    obtain ⟨ended, watchers, hwatchers, htold⟩ :=
      expects_of_evaluates h (.awaitingInterpreter c) _ (by rw [place_rest, hstage]) rfl
    have hover : ended = true := by
      obtain ⟨k, hk, hview⟩ := Option.map_eq_some_iff.mp hwatchers
      simp only [makings, List.getElem?_map, hk, Option.map_some, Option.some.injEq] at hended
      exact (Prod.mk.inj hview).1.symm.trans (by rw [hended]; rfl)
    subst hover
    exact .inr ⟨rfl, (Told.ready htold)⟩
  | ended hfault =>
    cases hfault
    exact .inl rfl

/-- Evaluations come in any order and wait wherever they wait; each preparation may fail.
Preparations do not overlap and none follows a success; all code runs in what the one success made.
Whoever waits for a construction that fails ends with its fault and runs nothing. What has not
failed stays what evaluations join, and what has failed is never joined once those who waited for it
have ended. -/
theorem interpreter_single_flight (settings : Settings) (world : World)
    (h : Reaches .evaluating (fresh settings world [] none) s) :
    (∀ before c after, s.deeds = before ++ .prepare c :: after → ∀ c',
      (.prepare c' ∈ before → ∃ success, .prepared c' success ∈ before) ∧
        .prepared c' true ∉ before) ∧
    (∀ before n i after, s.deeds = before ++ .run n i :: after →
      ∃ c, .prepared c true ∈ before ∧ s.making? c = some (.ended (.ok i))) ∧
    (∀ c c' i i', s.making? c = some (.ended (.ok i)) → s.making? c' = some (.ended (.ok i')) →
      c = c' ∧ i = i') ∧
    (∀ n c fault, .awaitConstruction n c ∈ s.deeds → s.making? c = some (.ended (.error fault)) →
      (∀ i, .run n i ∉ s.deeds) ∧ (s.stage? n = some (.ended (.error fault)) ∨
        s.stage? n = some (.awaitingInterpreter c) ∧ (.relay n ∈ s.ready ∨ .job n ∈ s.ready))) ∧
    (∀ c stage, s.making? c = some stage → (∀ fault, stage ≠ .ended (.error fault)) →
      s.construction = some c) ∧
    (∀ c fault, s.making? c = some (.ended (.error fault)) → fault.kind.isOrdinary →
      (∀ n, .awaitConstruction n c ∈ s.deeds → ∃ result, s.stage? n = some (.ended result)) →
      ∀ s', Reaches .evaluating s s' → ∀ n, s.jobs.length ≤ n →
        .awaitConstruction n c ∉ s'.deeds ∧
        ∀ stage, s'.stage? n = some stage → stage = .starting ∨
          (∃ c', c < c' ∧ .awaitConstruction n c' ∈ s'.deeds) ∨
          ∃ i c', c < c' ∧ .enter n i ∈ s'.deeds ∧ s'.making? c' = some (.ended (.ok i))) := by
  have hv : Evaluates settings world .rest s := visits_of_reaches h
  have hs := constructed_of_evaluates hv
  simp only [making?_eq]
  refine ⟨fun before c after hdeeds c' => ?_, fun before n i after hdeeds => ?_,
    fun c c' i i' hc hc' => ?_, fun n c fault => failed_of_evaluates hv,
    fun c stage hc hstage => ?_, fun c fault hended hfault hwaiters s' hs' n hn => ?_⟩
  · obtain ⟨p₁, s₁, hv₁, ho, rfl, -⟩ := hv.occasion rfl hdeeds
    exact (prepared_of_evaluates hv₁).before (constructed_of_evaluates hv₁) ho
  · obtain ⟨p₁, s₁, hv₁, ho, rfl, -⟩ := hv.occasion rfl hdeeds
    have hcurrent := (housed_of_evaluates hv₁).place ho.run_interpreter?
    obtain ⟨c, hc⟩ := (constructed_of_evaluates hv₁).current hcurrent
    have hprepared := (prepared_of_evaluates hv₁).recorded hc
    refine ⟨c, hprepared, ?_⟩
    have hrun : .run n i ∈ s.deeds := by simp [hdeeds]
    have hdone : .prepared c true ∈ s.deeds := by simp [hdeeds, hprepared]
    obtain ⟨i', hi'⟩ := (prepared_of_evaluates hv).success hdone
    have hi := (housed_of_evaluates hv).run hrun
    obtain rfl := Option.some.inj (hi.symm.trans (hs.success hi'))
    exact hi'
  · have hjoined {c i : Nat} (hc : s.makings[c]? = some (.ended (.ok i))) :
        s.construction = some c := by
      rcases hs.joined hc with hjoined | ⟨fault, hfault⟩
      · exact hjoined
      · cases hfault
    exact ⟨Option.some.inj ((hjoined hc).symm.trans (hjoined hc')),
      Option.some.inj ((hs.success hc).symm.trans (hs.success hc'))⟩
  · rcases hs.joined hc with hjoined | ⟨fault, hfault⟩
    · exact hjoined
    · exact absurd hfault (hstage fault)
  · have hv' := visits_of_reaches hs'
    have hsurpassed := hv'.surpassed hs (surpassed_of_ended hv hended hfault hwaiters)
    have hevaluates := hv.trans hv'
    refine ⟨fun hdeed => ?_, fun stage hstage => ?_⟩
    · have := hsurpassed.await hdeed
      omega
    · by_cases hstart : stage = .starting
      · exact .inl hstart
      have hrank : (place n .rest s').rank = 2 ∨ 4 ≤ (place n .rest s').rank := by
        rw [place_rest, hstage]
        exact stage.rank_of_ne_starting hstart
      rcases begun_of_evaluates hevaluates hrank with ⟨c', hdeed⟩ | ⟨i, hdeed⟩
      · exact .inr (.inl ⟨c', (hsurpassed.await hdeed).resolve_left (by omega), hdeed⟩)
      · have hcurrent := (housed_of_evaluates hevaluates).enter hdeed
        obtain ⟨c', hlt, hc'⟩ := hsurpassed.entered (hv'.constructed hs)
          (hv'.ended_stays hs hended) hcurrent
        exact .inr (.inr ⟨i, c', hlt, hdeed, hc'⟩)

/-- The first preparation fails; the next evaluation starts another. -/
theorem interpreter_after_failure : ∃ world s, Reaches .evaluating (fresh default world [] none) s ∧
    ∃ before i after, s.deeds = before ++ .run 1 i :: after ∧ ∃ c, .prepared c true ∈ before := by
  let world : World :=
    { installer := .scripted { preparations := [some ⟨.runtimeError, "offline", none, none⟩] } }
  let s := (((fresh default world [] none).serve (.evaluate "1")).2.serve (.evaluate "1")).2
  have hs : Reaches .evaluating (fresh default world [] none) s :=
    reaches_serve (reaches_serve .refl trivial fun _ _ => trivial) trivial fun _ _ => trivial
  obtain ⟨before, i, after, hrun⟩ : ∃ before i after, s.deeds = before ++ .run 1 i :: after :=
    exists_run (by decide +kernel)
  obtain ⟨-, hmade, -⟩ := interpreter_single_flight default world hs
  obtain ⟨c, hprepared, -⟩ := hmade before 1 i after hrun
  exact ⟨world, s, hs, before, i, after, hrun, c, hprepared⟩

end Chunkwise.Session
