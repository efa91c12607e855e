import Chunkwise.Proofs.Session.Joins

/-!
Nobody waits in vain: a job is among those who are told when what it waits for ends, and once that
has ended it is told.
-/
namespace Chunkwise.Session
open Chunkwise.Execution

variable {settings : Settings} {world : World} {s s' : Session} {p p' : Point} {n c a i : Nat}

/-- What a job may wait for with others. -/
inductive Source where
  | construction (c : Nat)
  | attempt (a : Nat)
  deriving DecidableEq

/-- Whether it has ended, and who waits for it. -/
def watchers? (x : Source) (s : Session) : Option (Bool × List Nat) :=
  match x with
  | .construction c => s.constructions[c]?.map fun k => (k.stage.isOver, k.watchers)
  | .attempt a => s.attempts[a]?.map fun made => (made.stage.isOver, made.watchers)

def Stage.source? : Stage → Option Source
  | .awaitingInterpreter c => some (.construction c)
  | .awaitingBridge _ a => some (.attempt a)
  | _ => none

/-- A job will be told, or goes on by itself. -/
def Told (n : Nat) (p : Point) (s : Session) : Prop :=
  .relay n ∈ s.ready ∨ .job n ∈ s.ready ∨ p = .picked (.relay n) ∨ p = .picked (.job n)

/-- No move takes anything from what is ready. -/
theorem Move.ready_subset (m : Move (p, s) (p', s')) {event : Event} (h : event ∈ s.ready) :
    event ∈ s'.ready := by
  cases m
  all_goals first
    | exact h
    | exact List.mem_append_left _ h

theorem getElem?_modify_view {α β : Type} {v : α → β} {f : α → α} {g : β → β}
    (h : ∀ x, v (f x) = g (v x)) (i j : Nat) (l : List α) :
    (l.modify i f)[j]?.map v = (l[j]?.map v).map fun y => if i = j then g y else y := by
  rw [List.getElem?_modify]
  cases l[j]? with
  | none => rfl
  | some x => by_cases hij : i = j <;> simp [hij, h]

theorem watchers?_setConstruction (c : Nat) (stage : Making) (s : Session) :
    (s.setConstruction c stage).watchers? (.construction i) =
      (s.watchers? (.construction i)).map fun w => if c = i then (stage.isOver, w.2) else w :=
  getElem?_modify_view (v := fun k : Construction => (k.stage.isOver, k.watchers))
    (g := fun w => (stage.isOver, w.2)) (fun _ => rfl) c i s.constructions

theorem watchers?_setAttempt (a : Nat) (stage : Loading) (s : Session) :
    (s.setAttempt a stage).watchers? (.attempt i) =
      (s.watchers? (.attempt i)).map fun w => if a = i then (stage.isOver, w.2) else w :=
  getElem?_modify_view (v := fun made : Attempt => (made.stage.isOver, made.watchers))
    (g := fun w => (stage.isOver, w.2)) (fun _ => rfl) a i s.attempts

/-- What comes of those who wait: there are more of them, or all are told. -/
def Spread (x : Source) (ended : Bool) (watchers : List Nat) (s' : Session) : Prop :=
  (∃ watchers', s'.watchers? x = some (ended, watchers') ∧ ∀ n ∈ watchers, n ∈ watchers') ∨
    s'.watchers? x = some (true, watchers) ∧ ∀ n ∈ watchers, .relay n ∈ s'.ready

variable {x : Source} {ended : Bool} {watchers : List Nat}

theorem Spread.same (h : s'.watchers? x = some (ended, watchers)) : Spread x ended watchers s' :=
  .inl ⟨watchers, h, fun _ => id⟩

/-- A construction that pauses keeps those who wait for it. -/
theorem watchers?_prepare (hs : Constructed (.making c) s)
    (hx : s.watchers? x = some (ended, watchers)) {stage : Making} (hstage : stage.isOver = false) :
    (s.setConstruction c stage).watchers? x = some (ended, watchers) := by
  cases x with
  | attempt a => exact hx
  | construction c' =>
    rw [watchers?_setConstruction, hx]
    obtain ⟨⟨old, hold, hopen⟩, -⟩ := hs.making rfl
    simp only [makings, List.getElem?_map, watchers?] at hold hx
    grind

theorem watchers?_pause (hb : Bridged p s) (hat : p.attempt? = some a)
    (hx : s.watchers? x = some (ended, watchers)) {stage : Loading} (hstage : stage.isOver = false) :
    (s.setAttempt a stage).watchers? x = some (ended, watchers) := by
  cases x with
  | construction c => exact hx
  | attempt a' =>
    rw [watchers?_setAttempt, hx]
    obtain ⟨b, hb⟩ := hb.here hat
    simp only [flights, List.getElem?_map, watchers?] at hb hx
    grind

theorem spread_endConstruction (hx : s.watchers? x = some (ended, watchers)) (c : Nat)
    (result : Except Fault Nat) : Spread x ended watchers (s.endConstruction c result) := by
  cases x with
  | attempt a => exact .same hx
  | construction c' =>
    by_cases hc : c = c'
    · subst hc
      refine .inr ⟨(watchers?_setConstruction ..).trans (by rw [hx]; simp [Making.isOver]), ?_⟩
      intro n hn
      obtain ⟨k, hk, hview⟩ := Option.map_eq_some_iff.mp hx
      obtain ⟨-, rfl⟩ := Prod.mk.inj hview
      have hready : (s.endConstruction c result).ready =
          s.ready ++ ((s.constructions[c]?.map (·.watchers)).getD []).map .relay := rfl
      rw [hready, hk]
      exact List.mem_append_right _ (List.mem_map_of_mem hn)
    · exact .same ((watchers?_setConstruction ..).trans (by simp [hx, hc]))

theorem spread_endAttempt (hx : s.watchers? x = some (ended, watchers)) (a : Nat)
    (fault : Option Fault) : Spread x ended watchers (s.endAttempt a fault) := by
  cases x with
  | construction c => cases fault <;> exact .same hx
  | attempt a' =>
    have hview : (s.endAttempt a fault).watchers? (.attempt a') =
        (s.setAttempt a (.ended fault)).watchers? (.attempt a') := by
      cases fault <;> rfl
    have hready : (s.endAttempt a fault).ready =
        s.ready ++ ((s.attempts[a]?.map (·.watchers)).getD []).map .relay := by
      cases fault <;> rfl
    rw [watchers?_setAttempt, hx] at hview
    by_cases ha : a = a'
    · subst ha
      refine .inr ⟨hview.trans (by simp [Loading.isOver]), fun n hn => ?_⟩
      obtain ⟨made, hmade, hpair⟩ := Option.map_eq_some_iff.mp hx
      obtain ⟨-, rfl⟩ := Prod.mk.inj hpair
      rw [hready, hmade]
      exact List.mem_append_right _ (List.mem_map_of_mem hn)
    · exact .same (hview.trans (by simp [ha]))

/-- One more waits. -/
theorem watchers?_watch (c n : Nat) (s : Session) : ({ s with
      constructions := s.constructions.modify c fun k =>
        { k with watchers := k.watchers ++ [n] } } : Session).watchers? (.construction i) =
    (s.watchers? (.construction i)).map fun w => if c = i then (w.1, w.2 ++ [n]) else w :=
  getElem?_modify_view (v := fun k : Construction => (k.stage.isOver, k.watchers))
    (f := fun k => { k with watchers := k.watchers ++ [n] }) (g := fun w => (w.1, w.2 ++ [n]))
    (fun _ => rfl) c i s.constructions

theorem watchers?_watchAttempt (n j a : Nat) (s : Session) :
    (s.watchAttempt n j a).watchers? (.attempt i) =
      (s.watchers? (.attempt i)).map fun w => if a = i then (w.1, w.2 ++ [n]) else w :=
  getElem?_modify_view (v := fun made : Attempt => (made.stage.isOver, made.watchers))
    (f := fun made => { made with watchers := made.watchers ++ [n] })
    (g := fun w => (w.1, w.2 ++ [n])) (fun _ => rfl) a i s.attempts

theorem watchers?_newAttempt (j : Nat) (hx : s.watchers? x = some (ended, watchers)) :
    (s.newAttempt j).watchers? x = some (ended, watchers) := by
  cases x with
  | construction c => exact hx
  | attempt a =>
    simp only [watchers?, newAttempt, mapCrossing, wake] at hx ⊢
    grind

theorem spread_watchAttempt (hx : s.watchers? x = some (ended, watchers)) (n i a : Nat) :
    Spread x ended watchers (s.watchAttempt n i a) := by
  cases x with
  | construction c => exact .same hx
  | attempt a' =>
    refine .inl ⟨if a = a' then watchers ++ [n] else watchers, ?_, fun m hm => ?_⟩
    · rw [watchers?_watchAttempt, hx]
      by_cases ha : a = a' <;> simp [ha]
    · grind

theorem Move.spread (m : Move (p, s) (p', s')) (hs : Constructed p s) (hb : Bridged p s)
    (hx : s.watchers? x = some (ended, watchers)) : Spread x ended watchers s' := by
  cases m
  case prepareLater => exact .same (watchers?_prepare hs hx rfl)
  case failConstruction => exact spread_endConstruction (s := s.did _) hx _ _
  case construct => exact spread_endConstruction (s := { s.did _ with cells := _, current := _ }) hx _ _
  case loadLater paused =>
    exact .same (watchers?_pause hb rfl hx (Loading.isOver_of_isPaused paused))
  case queueAdapter | adaptLater | stickAttempt =>
    exact .same (watchers?_pause hb rfl hx rfl)
  case arrive | failAttempt | failAdapted => exact spread_endAttempt hx _ _
  case found =>
    cases x with
    | attempt a => exact .same hx
    | construction c =>
      refine .same ?_
      simp only [watchers?, newConstruction, wake] at hx ⊢
      grind
  case watch n c _ =>
    cases x with
    | attempt a => exact .same hx
    | construction c' =>
      refine .inl ⟨if c = c' then watchers ++ [n] else watchers, ?_, fun m hm => ?_⟩
      · refine (watchers?_watch c n s).trans ?_
        rw [hx]
        by_cases hc : c = c' <;> simp [hc]
      · grind
  case watchAttempt => exact spread_watchAttempt hx _ _ _
  case newAttempt i _ _ => exact spread_watchAttempt (watchers?_newAttempt i hx) _ _ _
  all_goals exact .same hx

/-- A job that waits for something waits among others while that has not ended, and is told when it
has. -/
def Expects (n : Nat) (p : Point) (s : Session) : Prop :=
  ∀ (stage : Stage) (x : Source), place n p s = .waiting (some stage) → stage.source? = some x →
    ∃ ended watchers, s.watchers? x = some (ended, watchers) ∧
      if ended then Told n p s else n ∈ watchers

theorem Told.grow (h : Told n .rest s) (hready : ∀ event ∈ s.ready, event ∈ s'.ready) :
    Told n .rest s' := by
  rcases h with hrelay | hjob | hpicked | hpicked
  · exact .inl (hready _ hrelay)
  · exact .inr (.inl (hready _ hjob))
  · cases hpicked
  · cases hpicked

theorem Told.ready (h : Told n .rest s) : .relay n ∈ s.ready ∨ .job n ∈ s.ready := by
  rcases h with hrelay | hjob | hpicked | hpicked
  · exact .inl hrelay
  · exact .inr hjob
  · cases hpicked
  · cases hpicked

/-- To tell a job is picked, or is still to be picked. -/
theorem Told.pick (h : Told n .rest s) (event : Event) :
    Told n (.picked event) { s with ready := s.ready.erase event } := by
  have hkeep {other : Event} (hother : other ∈ s.ready) :
      other ∈ s.ready.erase event ∨ event = other := by
    by_cases he : event = other
    · exact .inr he
    · exact .inl ((List.mem_erase_of_ne fun e => he e.symm).mpr hother)
  rcases h with hrelay | hjob | hpicked | hpicked
  · rcases hkeep hrelay with hstays | rfl
    · exact .inl hstays
    · exact .inr (.inr (.inl rfl))
  · rcases hkeep hjob with hstays | rfl
    · exact .inr (.inl hstays)
    · exact .inr (.inr (.inr rfl))
  · cases hpicked
  · cases hpicked

theorem Told.move (h : Told n p s) (m : Move (p, s) (p', s')) (hat : ¬p.isAt n) :
    Told n p' s' := by
  rcases h with hrelay | hjob | rfl | rfl
  · exact .inl (m.ready_subset hrelay)
  · exact .inr (.inl (m.ready_subset hjob))
  · cases m
    case work busy _ _ => cases busy
    case idle hidle => exact hidle.elim
    case relay => exact .inr (.inl (List.mem_append_right _ (List.mem_singleton_self _)))
  · exact absurd (.inl rfl) hat

theorem Expects.move_other (h : Expects n p s) (hs : Constructed p s) (hb : Bridged p s)
    (m : Move (p, s) (p', s')) (hat : ¬p.isAt n) : Expects n p' s' := by
  intro stage x hplace hx
  rw [m.place_eq hat] at hplace
  obtain ⟨ended, watchers, hwatchers, hover⟩ := h stage x hplace hx
  have htold : ended = true → Told n p' s' := by
    rintro rfl
    exact Told.move hover m hat
  rcases m.spread hs hb hwatchers with ⟨watchers', hsame, hsub⟩ | ⟨hended, hrelays⟩
  · refine ⟨ended, watchers', hsame, ?_⟩
    cases ended with
    | true => exact htold rfl
    | false => exact hsub n hover
  · refine ⟨true, watchers, hended, ?_⟩
    cases ended with
    | true => exact htold rfl
    | false => exact .inl (hrelays n hover)

theorem making?_of_over (h : s.watchers? (.construction c) = some (true, watchers)) :
    ∃ result, s.making? c = some (.ended result) := by
  obtain ⟨k, hk, hview⟩ := Option.map_eq_some_iff.mp h
  rw [making?, hk]
  cases hstage : k.stage <;> simp_all [Making.isOver]

theorem loading?_of_over (h : s.watchers? (.attempt a) = some (true, watchers)) :
    ∃ fault, s.loading? a = some (.ended fault) := by
  obtain ⟨made, hmade, hview⟩ := Option.map_eq_some_iff.mp h
  rw [loading?, hmade]
  cases hstage : made.stage <;> simp_all [Loading.isOver]

/-- A job whose turn it is goes on waiting only if what it waits for has not ended. -/
theorem Expects.move_picked (h : Expects n (.picked (.job n)) s)
    (m : Move (.picked (.job n), s) (p', s')) : Expects n p' s' := by
  intro stage x hplace hx
  cases m
  case work busy _ _ => cases busy
  case idle hidle =>
    obtain ⟨ended, watchers, hwatchers, hover⟩ := h stage x hplace hx
    refine ⟨ended, watchers, hwatchers, ?_⟩
    have hstage : s.stage? n = some stage := by simpa using hplace
    cases ended with
    | false => exact hover
    | true =>
      simp only [Idle, hstage] at hidle
      cases stage with
      | awaitingInterpreter c =>
        cases hx
        obtain ⟨result, hresult⟩ := making?_of_over hwatchers
        exact absurd hresult (hidle result)
      | awaitingBridge i a =>
        cases hx
        obtain ⟨fault, hfault⟩ := loading?_of_over hwatchers
        exact absurd hfault (hidle fault)
      | _ => cases hx
  all_goals
    rw [place_job] at hplace
    cases hplace

theorem Constructed.watched (hs : Constructed (.job n (.watch c)) s)
    (hc : ∀ result, s.making? c ≠ some (.ended result)) :
    ∃ k, s.constructions[c]? = some k ∧ k.stage.isOver = false := by
  have hlast := hs.last hs.attends
  have hlt : c < s.constructions.length := by
    simp only [makings, List.length_map] at hlast
    omega
  refine ⟨s.constructions[c], List.getElem?_eq_getElem hlt, ?_⟩
  rw [making?, List.getElem?_eq_getElem hlt] at hc
  cases hstage : s.constructions[c].stage with
  | ended result => exact absurd (by simp [hstage]) (hc result)
  | starting | preparing => rfl

theorem Bridged.boarded (hb : Bridged p s) (ha : s.crossing.inflight = some a) :
    ∃ made, s.attempts[a]? = some made ∧ made.stage.isOver = false := by
  have hcrossing := List.getElem?_eq_getElem hb.bridge
  simp only [crossing, hcrossing, Option.getD_some] at ha
  obtain ⟨made, hmade, -, hover⟩ := inFlight_iff.mpr ((hb.inflight hcrossing a).mp ha)
  exact ⟨made, hmade, hover⟩

theorem Expects.move_job {task : Task} (hs : Constructed (.job n task) s)
    (hb : Bridged (.job n task) s) (m : Move (.job n task, s) (p', s'))
    (hn : s.stage? n ≠ none) : Expects n p' s' := by
  intro stage x hplace hx
  have hstage : ∀ {stage' : Stage}, place n p' s' = .waiting (some stage') → stage' = stage :=
    fun h => by simpa using h.symm.trans hplace
  cases m
  case watch c hc =>
    obtain rfl := hstage (place_setJob hn (.awaitingInterpreter c))
    cases hx
    obtain ⟨k, hk, hkstage⟩ := hs.watched hc
    refine ⟨false, k.watchers ++ [n], (watchers?_watch c n s).trans ?_, by simp⟩
    simp [watchers?, hk, hkstage]
  case watchAttempt i a _ ha =>
    obtain rfl := hstage (place_setJob hn (.awaitingBridge i a))
    cases hx
    obtain ⟨made, hmade, hover⟩ := hb.boarded ha
    refine ⟨false, made.watchers ++ [n], (watchers?_watchAttempt ..).trans ?_, by simp⟩
    simp [watchers?, hmade, hover]
  case newAttempt i _ _ =>
    obtain rfl := hstage (place_setJob hn (.awaitingBridge i s.attempts.length))
    cases hx
    refine ⟨false, [n], (watchers?_watchAttempt ..).trans ?_, by simp⟩
    simp [watchers?, Session.newAttempt, mapCrossing, wake, Loading.isOver]
  case queueSearch i _ _ =>
    obtain rfl := hstage (place_setJob hn (.queuedToResolve i))
    cases hx
  case installLater i missing turns =>
    obtain rfl := hstage (place_setJob hn (.installing i missing turns))
    cases hx
  case queueChunk i _ =>
    obtain rfl := hstage (place_setJob hn (.queuedToRun i))
    cases hx
  case executeLater i resume _ =>
    obtain rfl := hstage (place_setJob hn (.running i resume))
    cases hx
  case stick =>
    obtain rfl := hstage (place_setJob hn .stuck)
    cases hx
  case finish result =>
    obtain rfl := hstage (place_setJob hn (.ended result))
    cases hx
  all_goals
    rw [place_job] at hplace
    cases hplace

theorem expects_of_evaluates (h : Evaluates settings world p s) : Expects n p s := by
  induction h with
  | start => exact nofun
  | @move p p' s s' h m ih =>
    have hs := constructed_of_evaluates h
    have hb := h.bridged (bridged_fresh settings world [] none)
    by_cases hat : p.isAt n
    · rcases hat with rfl | ⟨task, rfl⟩
      · exact ih.move_picked m
      · exact Expects.move_job hs hb m (h.stage?_ne_none rfl)
    · exact ih.move_other hs hb m hat
  | @pick s event _ _ _ ih =>
    intro stage x hplace hx
    obtain ⟨ended, watchers, hwatchers, hover⟩ := ih stage x hplace hx
    refine ⟨ended, watchers, hwatchers, ?_⟩
    cases ended with
    | false => exact hover
    | true => exact Told.pick hover event
  | submit request _ _ ih =>
    intro stage x hplace hx
    rw [place_rest, stage?_submit] at hplace
    split at hplace
    next =>
      cases hplace
      cases hx
    next =>
      obtain ⟨ended, watchers, hwatchers, hover⟩ := ih stage x hplace hx
      refine ⟨ended, watchers, hwatchers, ?_⟩
      cases ended with
      | false => exact hover
      | true => exact Told.grow hover fun _ => List.mem_append_left _
  | change _ _ _ _ _ ih => exact ih
  | close _ _ _ _ _ allowed => exact allowed.elim

end Chunkwise.Session
