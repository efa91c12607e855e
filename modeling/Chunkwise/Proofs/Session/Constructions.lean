import Chunkwise.Proofs.Session.Places

/-!
Constructions of interpreters, in a session that is not closed. A construction under way is the one
that new evaluations join, and so is one that has succeeded: there is one at a time, and none after
a success.
-/
namespace Chunkwise.Session
open Chunkwise.Execution

variable {rule : Rule} {s₀ s₁ s s' : Session} {p p' : Point} {n c i : Nat}

def Making.isOver : Making → Bool
  | .ended _ => true
  | _ => false

def makings (s : Session) : List Making :=
  s.constructions.map (·.stage)

theorem making?_eq (c : Nat) (s : Session) : s.making? c = s.makings[c]? := by
  simp [making?, makings]

/-- A construction that is worked on has not ended, and one that is learned of has. -/
def Attends (p : Point) (s : Session) : Prop :=
  match p with
  | .making c => ∃ stage, s.making? c = some stage ∧ stage.isOver = false
  | .job _ (.watch c) => s.construction = some c
  | .job _ (.learn c result) => s.making? c = some (.ended result)
  | _ => True

/-- What a move does to constructions. -/
inductive Founding (p : Point) (s : Session) (p' : Point) (s' : Session) : Prop
  | stay (makings : s'.makings = s.makings) (construction : s'.construction = s.construction)
      (current : s'.current = s.current) (attends : Attends p' s')
  | start {n : Nat} (there : p' = .job n (.watch s.constructions.length))
      (none : s.construction = none) (makings : s'.makings = s.makings ++ [.starting])
      (construction : s'.construction = some s.constructions.length)
      (current : s'.current = s.current)
  | advance {c : Nat} {stage : Making} (here : p = .making c) (rest : p' = .rest)
      (makings : s'.makings = s.makings.set c stage) (error : ∀ i, stage ≠ .ended (.ok i))
      (construction : s'.construction = s.construction) (current : s'.current = s.current)
  | succeed {c i : Nat} (here : p = .making c) (rest : p' = .rest)
      (makings : s'.makings = s.makings.set c (.ended (.ok i)))
      (construction : s'.construction = s.construction) (current : s'.current = some i)
  | forget {n c : Nat} {fault : Fault} (here : p = .job n (.learn c (.error fault)))
      (there : p' = .job n (.finish (.error fault))) (joined : s.construction = some c)
      (makings : s'.makings = s.makings) (construction : s'.construction = none)
      (current : s'.current = s.current)

theorem makings_setConstruction (c : Nat) (stage : Making) (s : Session) :
    (s.setConstruction c stage).makings = s.makings.set c stage :=
  map_modify_set fun _ _ => rfl

theorem makings_watch (n c : Nat) (s : Session) :
    (s.constructions.modify c fun k => { k with watchers := k.watchers ++ [n] }).map (·.stage) =
      s.makings :=
  map_modify_eq (f := fun k : Construction => { k with watchers := k.watchers ++ [n] })
    (fun _ => rfl) c s.constructions

theorem Move.founding (m : Move (p, s) (p', s')) (h : Attends p s) : Founding p s p' s' := by
  cases m
  case prepare hc => exact .stay rfl rfl rfl ⟨_, hc, rfl⟩
  case prepareOn hc => exact .stay rfl rfl rfl ⟨_, hc, rfl⟩
  case prepareLater fault turns =>
    exact .advance rfl rfl (makings_setConstruction _ (.preparing fault turns) _) nofun rfl rfl
  case failConstruction fault =>
    exact .advance rfl rfl (makings_setConstruction _ (.ended (.error fault)) _) nofun rfl rfl
  case construct => exact .succeed rfl rfl (makings_setConstruction ..) rfl rfl
  case join _ hc => exact .stay rfl rfl rfl hc
  case found _ hc => exact .start rfl hc List.map_append rfl rfl
  case watchEnded hc => exact .stay rfl rfl rfl hc
  case watch => exact .stay (makings_watch ..) rfl rfl trivial
  case learn _ hc => exact .stay rfl rfl rfl hc
  case forget hc => exact .forget rfl rfl hc.2 rfl rfl rfl
  case work => exact .stay rfl rfl rfl h
  all_goals exact .stay rfl rfl rfl trivial

/-- How constructions fit together. -/
structure Constructed (p : Point) (s : Session) : Prop where
  last {c : Nat} : s.construction = some c → c + 1 = s.makings.length
  joined {c : Nat} {stage : Making} : s.makings[c]? = some stage →
    s.construction = some c ∨ ∃ fault : Fault, stage = .ended (.error fault)
  success {c i : Nat} : s.makings[c]? = some (.ended (.ok i)) → s.current = some i
  current {i : Nat} : s.current = some i →
    ∃ c : Nat, s.makings[c]? = some (.ended (.ok i))
  attends : Attends p s

/-- A construction that has not ended is under way alone, and there is no interpreter yet. -/
theorem Constructed.open_joined (h : Constructed p s) {stage : Making}
    (hc : s.makings[c]? = some stage) (hopen : stage.isOver = false) :
    s.construction = some c ∧ s.current = none := by
  have hjoin {c : Nat} {stage : Making} (hc : s.makings[c]? = some stage)
      (hok : ∀ fault, stage ≠ .ended (.error fault)) : s.construction = some c := by
    rcases h.joined hc with hjoined | ⟨fault, hfault⟩
    · exact hjoined
    · exact absurd hfault (hok fault)
  have hjoined := hjoin hc (by rintro fault rfl; cases hopen)
  refine ⟨hjoined, Option.eq_none_iff_forall_ne_some.mpr fun i hi => ?_⟩
  obtain ⟨c', hc'⟩ := h.current hi
  obtain rfl : c' = c := Option.some.inj ((hjoin hc' nofun).symm.trans hjoined)
  rw [hc] at hc'
  cases hc'
  cases hopen

/-- The construction that is worked on. -/
theorem Constructed.making (h : Constructed p s) (here : p = .making c) :
    (∃ stage, s.makings[c]? = some stage ∧ stage.isOver = false) ∧ s.construction = some c ∧
      s.current = none := by
  have hattends := h.attends
  subst here
  obtain ⟨stage, hstage, hopen⟩ := hattends
  rw [making?_eq] at hstage
  exact ⟨⟨stage, hstage, hopen⟩, h.open_joined hstage hopen⟩

/-- A construction that has ended stays so. -/
theorem Founding.ended_stays (f : Founding p s p' s') (h : Attends p s)
    {result : Except Fault Nat} (hc : s.makings[c]? = some (.ended result)) :
    s'.makings[c]? = some (.ended result) := by
  have hother {c₀ : Nat} (here : p = .making c₀) : c₀ ≠ c := by
    rintro rfl
    subst here
    obtain ⟨stage, hstage, hopen⟩ := h
    rw [making?_eq, hc] at hstage
    cases hstage
    cases hopen
  cases f with
  | stay makings | forget _ _ _ makings => rw [makings, hc]
  | start _ _ makings =>
    rw [makings, List.getElem?_append_left (List.getElem?_eq_some_iff.mp hc).1, hc]
  | advance here _ makings | succeed here _ makings =>
    rw [makings, List.getElem?_set_ne (hother here), hc]

theorem Constructed.keep (h : Constructed p s) (f : Founding p s p' s') : Constructed p' s' := by
  cases f with
  | stay makings construction current attends =>
    have attends' : Attends p' s' := by
      unfold Attends at attends ⊢
      simpa only [making?_eq, makings, construction] using attends
    refine ⟨?_, ?_, ?_, ?_, attends'⟩
    · rw [makings, construction]
      exact h.last
    · rw [makings, construction]
      exact h.joined
    · rw [makings, current]
      exact h.success
    · rw [makings, current]
      exact h.current
  | start there none makings construction current =>
    have hlength : s.makings.length = s.constructions.length := List.length_map _
    have hjoined := @h.joined
    have hsuccess := @h.success
    refine ⟨?_, fun {c stage} hc => ?_, fun {c i} hc => ?_, fun {i} hi => ?_, ?_⟩
    · rintro c hc
      rw [construction] at hc
      simp only [makings, List.length_append, hlength, ← Option.some.inj hc, List.length_singleton]
    · rw [makings, List.getElem?_append] at hc
      grind
    · rw [makings, List.getElem?_append] at hc
      grind
    · obtain ⟨c, hc⟩ := h.current (current ▸ hi)
      exact ⟨c, by rw [makings, List.getElem?_append_left (List.getElem?_eq_some_iff.mp hc).1, hc]⟩
    · rw [there]
      exact construction
  | @advance c _ here rest makings error construction current =>
    obtain ⟨-, hjoined, hnone⟩ := h.making here
    have hothers := @h.joined
    have hsuccess := @h.success
    refine ⟨?_, fun {c' stage'} hc => ?_, fun {c' i} hc => ?_, fun {i} hi => ?_, rest ▸ trivial⟩
    · rw [makings, construction, List.length_set]
      exact h.last
    · rw [makings, List.getElem?_set] at hc
      rw [construction]
      grind
    · rw [makings, List.getElem?_set] at hc
      rw [current]
      grind
    · rw [current, hnone] at hi
      cases hi
  | @succeed c i here rest makings construction current =>
    obtain ⟨⟨stage, hstage, -⟩, hjoined, hnone⟩ := h.making here
    have hothers := @h.joined
    have hsuccess := @h.success
    refine ⟨?_, fun {c' stage'} hc => ?_, fun {c' i'} hc => ?_, fun {i'} hi => ⟨c, ?_⟩, rest ▸ trivial⟩
    · rw [makings, construction, List.length_set]
      exact h.last
    · rw [makings, List.getElem?_set] at hc
      rw [construction]
      grind
    · rw [makings, List.getElem?_set] at hc
      rw [current]
      grind
    · have hi : i = i' := Option.some.inj (current.symm.trans hi)
      rw [makings, List.getElem?_set_self (List.getElem?_eq_some_iff.mp hstage).1, hi]
  | @forget n c fault here there joined makings construction current =>
    have hended : s.makings[c]? = some (.ended (.error fault)) := by
      have hattends := h.attends
      subst here
      rwa [← making?_eq]
    refine ⟨?_, fun {c' stage'} hc => .inr ?_, ?_, ?_, there ▸ trivial⟩
    · rw [construction]
      rintro _ ⟨⟩
    · rw [makings] at hc
      rcases h.joined hc with hc' | hfault
      · obtain rfl : c' = c := Option.some.inj (hc'.symm.trans joined)
        exact ⟨fault, Option.some.inj (hc.symm.trans hended)⟩
      · exact hfault
    · rw [makings, current]
      exact h.success
    · rw [makings, current]
      exact h.current

theorem Constructed.pick (h : Constructed .rest s) (event : Event) (ready : List Event) :
    Constructed (.picked event) { s with ready := ready } :=
  ⟨h.last, h.joined, h.success, h.current, trivial⟩

theorem Visits.constructed (h : Visits .evaluating s₀ p s) (h₀ : Constructed .rest s₀) :
    Constructed p s := by
  induction h with
  | start => exact h₀
  | move _ m ih => exact ih.keep (m.founding ih.attends)
  | pick _ _ _ ih => exact ih.pick _ _
  | submit _ _ _ ih | change _ _ _ _ _ ih =>
    exact ⟨ih.last, ih.joined, ih.success, ih.current, trivial⟩
  | close _ _ _ _ _ allowed => exact allowed.elim

theorem constructed_fresh (settings : Settings) (world : World) :
    Constructed .rest (fresh settings world [] none) :=
  ⟨nofun, nofun, nofun, nofun, trivial⟩

/-- A run of evaluations comes by a point. -/
abbrev Evaluates (settings : Settings) (world : World) : Point → Session → Prop :=
  Visits .evaluating (fresh settings world [] none)

variable {settings : Settings} {world : World}

theorem constructed_of_evaluates (h : Evaluates settings world p s) : Constructed p s :=
  h.constructed (constructed_fresh settings world)

/-! The record of constructions. -/

/-- Each preparation on record is over or under way, and the successful ones have ended so. -/
structure Prepared (p : Point) (s : Session) : Prop where
  prepared {c : Nat} : .prepare c ∈ s.deeds → (∃ success, .prepared c success ∈ s.deeds) ∨
    p = .making c ∨ ∃ fault turns, s.makings[c]? = some (.preparing fault turns)
  success {c : Nat} : .prepared c true ∈ s.deeds → ∃ i, s.makings[c]? = some (.ended (.ok i))
  recorded {c i : Nat} : s.makings[c]? = some (.ended (.ok i)) → .prepared c true ∈ s.deeds

theorem Occasion.prepared_at {success : Bool} (h : Occasion p s (.prepared c success)) :
    p = .making c := by
  cases h
  case strive h => cases h
  case prepared => rfl

theorem Occasion.prepare_at (h : Occasion p s (.prepare c)) :
    p = .picked (.construction c) ∧ s.making? c = some .starting := by
  cases h
  case strive h => cases h
  case prepare h => exact ⟨rfl, h⟩

theorem makings_grow (m : Move (p, s) (p', s')) (hs : Constructed p s) (here : ∀ c, p ≠ .making c) :
    s'.makings = s.makings ∨ s'.makings = s.makings ++ [.starting] := by
  cases m.founding hs.attends with
  | stay makings | forget _ _ _ makings => exact .inl makings
  | start _ _ makings => exact .inr makings
  | advance there | succeed there => exact absurd there (here _)

/-- What is put on record when a construction comes to a stage. -/
def Making.outcome (c : Nat) : Making → List Deed
  | .ended (.ok _) => [.prepared c true]
  | .ended (.error _) => [.prepared c false]
  | .starting | .preparing _ _ => []

theorem mem_outcome {stage : Making} {deed : Deed} (h : deed ∈ stage.outcome c) :
    (∃ fault, stage = .ended (.error fault) ∧ deed = .prepared c false) ∨
      ∃ i, stage = .ended (.ok i) ∧ deed = .prepared c true := by
  rcases stage with _ | _ | (fault | i)
  · cases h
  · cases h
  · exact .inl ⟨fault, rfl, List.mem_singleton.mp h⟩
  · exact .inr ⟨i, rfl, List.mem_singleton.mp h⟩

theorem Prepared.advance {stage : Making} (h : Prepared (.making c) s)
    (hstage : s.makings[c]? = some stage) (hopen : stage.isOver = false) (stage' : Making)
    (hstage' : stage' ≠ .starting) (makings : s'.makings = s.makings.set c stage')
    (deeds : s'.deeds = s.deeds ++ stage'.outcome c) : Prepared .rest s' := by
  have hself : s'.makings[c]? = some stage' := by
    rw [makings, List.getElem?_set_self (List.getElem?_eq_some_iff.mp hstage).1]
  have hother {c' : Nat} (hne : c ≠ c') : s'.makings[c']? = s.makings[c']? := by
    rw [makings, List.getElem?_set_ne hne]
  have hmem {deed : Deed} (hdeed : deed ∈ s.deeds ∨ deed ∈ stage'.outcome c) : deed ∈ s'.deeds :=
    deeds ▸ List.mem_append.mpr hdeed
  refine ⟨fun {c'} hc' => ?_, fun {c'} hc' => ?_, fun {c' i} hc' => ?_⟩
  · by_cases hne : c = c'
    · subst hne
      rcases stage' with _ | ⟨fault, turns⟩ | (fault | i)
      · contradiction
      · exact .inr (.inr ⟨fault, turns, hself⟩)
      · exact .inl ⟨false, hmem (.inr (List.mem_singleton_self _))⟩
      · exact .inl ⟨true, hmem (.inr (List.mem_singleton_self _))⟩
    · have hold : .prepare c' ∈ s.deeds := by
        rcases List.mem_append.mp (deeds ▸ hc') with hold | hnew
        · exact hold
        · rcases mem_outcome hnew with ⟨_, _, hdeed⟩ | ⟨_, _, hdeed⟩ <;> cases hdeed
      rw [hother hne]
      rcases h.prepared hold with ⟨success, hdone⟩ | hmaking | hpreparing
      · exact .inl ⟨success, hmem (.inl hdone)⟩
      · cases hmaking
        contradiction
      · exact .inr (.inr hpreparing)
  · rcases List.mem_append.mp (deeds ▸ hc') with hold | hnew
    · obtain ⟨i, hi⟩ := h.success hold
      have hne : c ≠ c' := by
        rintro rfl
        obtain rfl := Option.some.inj (hstage.symm.trans hi)
        cases hopen
      exact ⟨i, by rw [hother hne, hi]⟩
    · rcases mem_outcome hnew with ⟨_, _, hdeed⟩ | ⟨i, hi, hdeed⟩
      · cases hdeed
      · cases hdeed
        exact ⟨i, hi ▸ hself⟩
  · by_cases hne : c = c'
    · subst hne
      obtain rfl := Option.some.inj (hself.symm.trans hc')
      exact hmem (.inr (List.mem_singleton_self _))
    · exact hmem (.inl (h.recorded (hother hne ▸ hc')))

theorem Prepared.keep (h : Prepared p s) (hs : Constructed p s) (m : Move (p, s) (p', s')) :
    Prepared p' s' := by
  by_cases here : ∃ c, p = .making c
  · obtain ⟨c₀, rfl⟩ := here
    obtain ⟨⟨stage, hstage, hopen⟩, hjoined, -⟩ := hs.making rfl
    cases m
    case work => exact ⟨h.prepared, h.success, h.recorded⟩
    case prepareLater fault turns =>
      exact h.advance hstage hopen (.preparing fault turns) nofun
        (makings_setConstruction ..) (List.append_nil _).symm
    case failConstruction fault =>
      exact h.advance hstage hopen (.ended (.error fault)) nofun
        (makings_setConstruction ..) rfl
    case construct =>
      exact h.advance hstage hopen (.ended (.ok s.cells.length)) nofun
        (makings_setConstruction ..) rfl
  · have here : ∀ c, p ≠ .making c := fun c e => here ⟨c, e⟩
    have hprepared {c : Nat} {success : Bool} (hdeed : .prepared c success ∈ s'.deeds) :
        .prepared c success ∈ s.deeds := by
      rcases m.deed_cases hdeed with hold | hnew
      · exact hold
      · exact absurd hnew.prepared_at (here c)
    have hgrow : ∀ {c : Nat} {stage : Making}, s.makings[c]? = some stage →
        s'.makings[c]? = some stage := by
      intro c stage hc
      rcases makings_grow m hs here with hsame | hnew
      · rw [hsame, hc]
      · rw [hnew, List.getElem?_append_left (List.getElem?_eq_some_iff.mp hc).1, hc]
    refine ⟨fun {c} hc => ?_, fun hc => ?_, fun {c i} hc => ?_⟩
    · rcases m.deed_cases hc with hold | hnew
      · rcases h.prepared hold with ⟨success, hdone⟩ | hmaking | ⟨fault, turns, hstage⟩
        · exact .inl ⟨success, m.mem_deeds hdone⟩
        · exact absurd hmaking (here c)
        · exact .inr (.inr ⟨fault, turns, hgrow hstage⟩)
      · obtain ⟨rfl, hstart⟩ := hnew.prepare_at
        cases m
        case work busy _ _ => cases busy
        case idle hidle => simp [Idle, hstart] at hidle
        case prepareOn hother => simp [hstart] at hother
        case prepare => exact .inr (.inl rfl)
    · obtain ⟨i, hi⟩ := h.success (hprepared hc)
      exact ⟨i, hgrow hi⟩
    · refine m.mem_deeds (h.recorded (i := i) ?_)
      rcases makings_grow m hs here with hsame | hnew
      · rwa [hsame] at hc
      · rw [hnew, List.getElem?_append] at hc
        grind

theorem prepared_of_evaluates (h : Evaluates settings world p s) : Prepared p s := by
  induction h with
  | start => exact ⟨nofun, nofun, nofun⟩
  | move h m ih => exact ih.keep (constructed_of_evaluates h) m
  | pick _ _ _ ih =>
    refine ⟨fun hc => ?_, ih.success, ih.recorded⟩
    exact (ih.prepared hc).imp_right fun hc => .inr (hc.resolve_left nofun)
  | submit _ _ _ ih | change _ _ _ _ _ ih => exact ⟨ih.prepared, ih.success, ih.recorded⟩
  | close _ _ _ _ _ allowed => exact allowed.elim

/-- A preparation begins when all that began before are over, and none of them has succeeded. -/
theorem Prepared.before (h : Prepared p s) (hs : Constructed p s)
    (hprepare : Occasion p s (.prepare c)) {c' : Nat} :
    (.prepare c' ∈ s.deeds → ∃ success, .prepared c' success ∈ s.deeds) ∧
      .prepared c' true ∉ s.deeds := by
  obtain ⟨rfl, hstart⟩ := hprepare.prepare_at
  rw [making?_eq] at hstart
  have hjoined := hs.open_joined hstart rfl
  refine ⟨fun hc' => ?_, fun hc' => ?_⟩
  · rcases h.prepared hc' with hdone | hmaking | ⟨fault, turns, hpreparing⟩
    · exact hdone
    · cases hmaking
    · have hjoined' := hs.open_joined hpreparing rfl
      obtain rfl := Option.some.inj (hjoined.1.symm.trans hjoined'.1)
      cases hstart.symm.trans hpreparing
  · obtain ⟨i, hi⟩ := h.success hc'
    cases hjoined.2.symm.trans (hs.success hi)

end Chunkwise.Session
