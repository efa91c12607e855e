import Chunkwise.Proofs.Session.Evaluations

/-!
Whatever goes on in an interpreter, that interpreter is there. It is so whether the session is
closed or not, as long as nobody asks for an interpreter that has not been made.
-/
namespace Chunkwise.Session
open Chunkwise.Execution

/-- Nobody names an interpreter that has not been made. -/
def Rule.orderly : Rule := fun cause s =>
  match cause with
  | .submit (.bootstrap i) => i < s.cells.length
  | .submit _ | .fire _ | .close | .outside _ => True

variable {rule : Rule} {settings : Settings} {world : World} {s₀ s s' : Session} {p p' : Point}
variable {n c i : Nat}

/-- In a session that is closed now and then, too, a construction that is worked on has not ended,
and one that is learned of has. -/
theorem Visits.attends (h : Visits rule s₀ p s) : Attends p s := by
  induction h with
  | move _ m ih =>
    cases m.founding ih with
    | stay _ _ _ attends => exact attends
    | start there _ _ construction =>
      subst there
      exact construction
    | advance _ rest | succeed _ rest =>
      subst rest
      trivial
    | forget _ there =>
      subst there
      trivial
  | _ => trivial

/-- No interpreter is ever taken away. -/
theorem Move.cells_le (m : Move (p, s) (p', s')) : s.cells.length ≤ s'.cells.length := by
  have hsame {cells : List Cell} (locks : cells.map (·.lock) = s.cells.map (·.lock)) :
      s.cells.length ≤ cells.length := by
    have hlength := congrArg List.length locks
    simp only [List.length_map] at hlength
    omega
  cases m
  case work locks _ => exact hsame locks
  case probe locks _ _ _ => exact hsame locks
  case abandon locks _ => exact hsame locks
  case construct => simp [Session.endConstruction, setConstruction, wakeAll, haltOn, did]
  all_goals
    first
      | exact Nat.le_refl _
      | simp [mapLock, mapCell, did, releaseRun, wakeAll, setAttempt, setJob]

theorem Move.current_cases (m : Move (p, s) (p', s')) :
    s'.current = s.current ∨
      s'.current = some s.cells.length ∧ s'.cells.length = s.cells.length + 1 := by
  cases m
  case construct =>
    refine .inr ⟨rfl, ?_⟩
    simp [Session.endConstruction, setConstruction, wakeAll, haltOn, did]
  all_goals exact .inl rfl

/-- Every interpreter that something refers to is there. -/
structure Present (p : Point) (s : Session) : Prop where
  request {n i : Nat} : s.request? n = some (.bootstrap i) → i < s.cells.length
  place {n i : Nat} : (place n p s).interpreter? = some i → i < s.cells.length
  attempt {i : Nat} : i ∈ s.attempts.map (·.interpreter) → i < s.cells.length
  current {i : Nat} : s.current = some i → i < s.cells.length
  made {c i : Nat} : s.makings[c]? = some (.ended (.ok i)) → i < s.cells.length

theorem Present.keep (h : Present p s) (ha : Attends p s) (m : Move (p, s) (p', s'))
    (hn : ∀ n task, p = .job n task → s.stage? n ≠ none) : Present p' s' := by
  have hgrow {i : Nat} (hi : i < s.cells.length) : i < s'.cells.length :=
    Nat.lt_of_lt_of_le hi m.cells_le
  have hcurrent {i : Nat} (hi : s'.current = some i) : i < s'.cells.length := by
    rcases m.current_cases with hsame | ⟨hnew, hlength⟩
    · exact hgrow (h.current (hsame ▸ hi))
    · obtain rfl : s.cells.length = i := Option.some.inj (hnew.symm.trans hi)
      omega
  refine ⟨fun hr => hgrow (h.request (m.request?_eq _ ▸ hr)), fun {n i} hi => ?_, fun {i} hi => ?_,
    hcurrent, fun {c i} hi => ?_⟩
  · rcases m.interpreter? (hn n) hi with hi | hi | ⟨c, rfl⟩ | hi
    · exact hgrow (h.place hi)
    · exact hgrow (h.current hi)
    · have hended : s.making? c = some (.ended (.ok i)) := ha
      exact hgrow (h.made (making?_eq c s ▸ hended))
    · exact hgrow (h.request hi)
  · rcases m.hosts with hsame | ⟨n, j, rfl, hnew⟩
    · exact hgrow (h.attempt (hsame ▸ hi))
    · rw [hnew, List.mem_append, List.mem_singleton] at hi
      rcases hi with hold | rfl
      · exact hgrow (h.attempt hold)
      · refine hgrow (h.place (n := n) ?_)
        rw [place_job]
        rfl
  · cases m.founding ha with
    | stay makings | forget _ _ _ makings => exact hgrow (h.made (makings ▸ hi))
    | start _ _ makings =>
      rw [makings, List.getElem?_append] at hi
      have hold := @h.made c i
      grind
    | @advance c' stage _ _ makings error =>
      rw [makings, List.getElem?_set] at hi
      have hold := @h.made c i
      have := error i
      grind
    | @succeed c' i' _ _ makings _ current =>
      rw [makings, List.getElem?_set] at hi
      have hold := @h.made c i
      have := hcurrent current
      grind

theorem Visits.present (h : Visits .orderly (fresh settings world [] none) p s) : Present p s := by
  induction h with
  | start => exact ⟨by simp [fresh, request?], by simp [fresh, stage?, Place.interpreter?],
      by simp [fresh], by simp [fresh], by simp [fresh, makings]⟩
  | move h m ih => exact ih.keep h.attends m fun n task => h.stage?_ne_none
  | pick _ _ _ ih => exact ⟨ih.request, ih.place, ih.attempt, ih.current, ih.made⟩
  | submit request _ allowed ih =>
    refine ⟨fun {n i} hr => ?_, fun {n i} hi => ?_, ih.attempt, ih.current, ih.made⟩
    · rw [request?_submit] at hr
      split at hr
      next =>
        obtain rfl := Option.some.inj hr
        exact allowed
      next => exact ih.request hr
    · rw [place_rest, stage?_submit] at hi
      split at hi
      next => cases hi
      next => exact ih.place hi
  | change world cells _ locks _ ih =>
    have hlength := congrArg List.length locks
    simp only [List.length_map] at hlength
    refine ⟨fun hr => ?_, fun hi => ?_, fun hi => ?_, fun hi => ?_, fun hi => ?_⟩
    all_goals rw [hlength]
    · exact ih.request hr
    · exact ih.place hi
    · exact ih.attempt hi
    · exact ih.current hi
    · exact ih.made hi
  | close world cells _ locks _ _ ih =>
    have hlength := congrArg List.length locks
    simp only [List.length_map] at hlength
    refine ⟨fun hr => ?_, fun hi => ?_, fun hi => ?_, by simp, fun hi => ?_⟩
    all_goals rw [hlength]
    · exact ih.request hr
    · exact ih.place hi
    · exact ih.attempt hi
    · exact ih.made hi

end Chunkwise.Session
