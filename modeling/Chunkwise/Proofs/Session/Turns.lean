import Chunkwise.Proofs.Session.Exclusion

/-!
The turns that runs take. In an interpreter nobody takes a turn while the code of another is under
way there, and whenever no code is under way nothing is pending; so what is pending was written by
the one that goes on.
-/
namespace Chunkwise.Session
open Chunkwise.Execution

variable {rule : Rule} {settings : Settings} {world : World} {s s' : Session} {p p' : Point}
variable {n i j a : Nat} {e x : Event} {cause : Cause}

/-- The code of a job or the adapter source of an attempt has begun to run in an interpreter and has
not ended. -/
def UnderWay (i : Nat) (s : Session) : Event → Prop
  | .job n => ∃ stage, s.stage? n = some stage ∧ stage.runs i ∧ .run n i ∈ s.deeds
  | .attempt a => ∃ made, s.attempts[a]? = some made ∧ made.interpreter = i ∧ made.stage.runs
  | .relay _ | .construction _ => False

theorem underWay_iff : UnderWay i s e ↔ Runs i .rest s e := by
  cases e with
  | job n =>
    simp only [UnderWay, Runs, place_rest]
    rcases s.stage? n with _ | stage <;> simp [Place.runs]
  | attempt a =>
    simp only [UnderWay, Runs, trial?]
    rcases s.attempts[a]? with _ | made <;> simp [Point.attempt?]
  | relay | construction => rfl

theorem Place.runs_of_running? {place : Place} (h : place.running? = some i) : place.runs i := by
  unfold Place.running? at h
  split at h
  · exact Option.some.inj h
  · exact Option.some.inj h
  · cases h

/-- Code that waits for its next turn is under way. -/
theorem underWay_of_running? (h : Visits rule (fresh settings world [] none) .rest s)
    (hi : (place n .rest s).running? = some i) : UnderWay i s (.job n) :=
  underWay_iff.mpr ⟨Place.runs_of_running? hi, h.run_mem hi⟩

theorem occupied_iff : Occupied i s ↔ ∃ e, UnderWay i s e := by
  constructor
  · rintro (⟨n, hjob⟩ | ⟨a, hattempt⟩)
    · exact ⟨.job n, hjob⟩
    · exact ⟨.attempt a, hattempt⟩
  · rintro ⟨e, he⟩
    cases e with
    | job n => exact .inl ⟨n, he⟩
    | attempt a => exact .inr ⟨a, he⟩
    | relay | construction => cases he

/-- The code of a job or the adapter source of an attempt begins to run in an interpreter by one of
these deeds. -/
def BegunBy (i : Nat) (s : Session) (deeds : List Deed) : Event → Prop
  | .job n => .run n i ∈ deeds
  | .attempt a => .adapt a ∈ deeds ∧ (s.attempts.map (·.interpreter))[a]? = some i
  | .relay _ | .construction _ => False

/-- Code is executed in an interpreter in a step: it begins to run, or goes on. -/
inductive Acts (i : Nat) : Cause → Session → Session → Event → Prop
  | begins {s s' : Session} {event e : Event} {more : List Deed}
      (deeds : s'.deeds = s.deeds ++ more) (begun : BegunBy i s more e) :
      Acts i (.fire event) s s' e
  | goesOn {s s' : Session} {e : Event} (h : UnderWay i s e) : Acts i (.fire e) s s' e

/-! Whose turn it is in an event. -/

/-- Who is told by an event. -/
def Event.actor : Event → Event
  | .relay n => .job n
  | event => event

/-- Whose turn it is. -/
def Point.turn? : Point → Option Event
  | .rest => none
  | .picked event => some event.actor
  | .making c => some (.construction c)
  | .crossing a | .adapting a | .adapted a => some (.attempt a)
  | .job n _ => some (.job n)

theorem Move.turn? (m : Move (p, s) (p', s')) : p' = .rest ∨ p'.turn? = p.turn? := by
  cases m
  all_goals first | exact .inl rfl | exact .inr rfl

theorem isAt_of_turn? (h : p.isAt n) : p.turn? = some (.job n) := by
  rcases h with rfl | ⟨task, rfl⟩ <;> rfl

theorem isTrial_of_turn? (h : p.isTrial a) : p.turn? = some (.attempt a) := by
  rcases h with rfl | hp
  · rfl
  · cases p <;> simp_all [Point.attempt?, Point.turn?]

/-- Nobody's run is touched by another. -/
theorem Move.runs_on (m : Move (p, s) (p', s')) (hx : p.turn? ≠ some x) (h : Runs i p s x) :
    Runs i p' s' x := by
  cases x with
  | job n =>
    have hat : ¬p.isAt n := fun hat => hx (isAt_of_turn? hat)
    exact ⟨m.place_eq hat ▸ h.1, m.mem_deeds h.2⟩
  | attempt a =>
    have htrial : ¬p.isTrial a := fun htrial => hx (isTrial_of_turn? htrial)
    have hp' := m.isTrial htrial
    obtain ⟨stage, hstage, hat⟩ := h
    have hruns : stage.runs := by
      rcases hat with rfl | ⟨-, hruns⟩
      · exact absurd (.inr rfl) htrial
      · exact hruns
    rcases m.trial? htrial with hsame | ⟨hnone, -⟩
    · exact ⟨stage, hsame ▸ hstage, .inr ⟨fun hp => hp' (.inr hp), hruns⟩⟩
    · rw [hnone] at hstage
      cases hstage
  | relay | construction => cases h

theorem Begins.turn? (h : Begins i s p' s' e) (m : Move (p, s) (p', s')) :
    p.turn? = some e := by
  cases e with
  | job n => exact isAt_of_turn? ((m.occasion h).isAt rfl)
  | attempt a =>
    obtain ⟨rfl, -⟩ := h
    rcases m.turn? with hrest | hsame
    · cases hrest
    · exact hsame.symm
  | relay | construction => cases h

theorem getElem?_hosts : (s.attempts.map (·.interpreter))[a]? = some i ↔
    ∃ stage, s.trial? a = some (i, stage) := by
  simp only [List.getElem?_map, Session.trial?]
  rcases s.attempts[a]? with _ | made <;> simp

theorem Move.hosts_stay (m : Move (p, s) (p', s'))
    (h : (s.attempts.map (·.interpreter))[a]? = some i) :
    (s'.attempts.map (·.interpreter))[a]? = some i := by
  rcases m.hosts with hsame | ⟨_, _, -, hnew⟩
  · exact hsame ▸ h
  · rw [hnew, List.getElem?_append_left (List.getElem?_eq_some_iff.mp h).1, h]

/-- The adapter source of an attempt begins to run where it is on record that it does. -/
theorem Move.adapting (m : Move (p, s) (p', s')) (hnew : s'.deeds = s.deeds ++ [.adapt a]) :
    p' = .adapting a := by
  cases m.occasion hnew
  case strive hdeed =>
    obtain rfl := Option.some.inj hdeed
    cases m
    case adapt => rfl
    case strive hnot =>
      have hdeed := List.singleton_inj.mp (List.append_cancel_left hnew)
      rw [hdeed] at hnot
      cases hnot
    all_goals
      have hsame : s.deeds = s.deeds ++ [.adapt a] := hnew
      simp at hsame
  case adaptNext hstage =>
    cases m
    case adaptNext => rfl
    all_goals simp_all

theorem Begins.of_begunBy {deed : Deed} (m : Move (p, s) (p', s'))
    (hnew : s'.deeds = s.deeds ++ [deed]) (h : BegunBy i s [deed] e) : Begins i s p' s' e := by
  cases e with
  | job n =>
    obtain rfl := List.mem_singleton.mp h
    exact hnew
  | attempt a =>
    obtain rfl := List.mem_singleton.mp h.1
    exact ⟨m.adapting hnew, getElem?_hosts.mp h.2, hnew⟩
  | relay | construction => cases h

theorem BegunBy.cases_append {more : List Deed} {deed : Deed} (h : BegunBy i s (more ++ [deed]) e) :
    BegunBy i s more e ∨ BegunBy i s [deed] e := by
  cases e with
  | job n => exact List.mem_append.mp h
  | attempt a => exact (List.mem_append.mp h.1).imp (⟨·, h.2⟩) (⟨·, h.2⟩)
  | relay | construction => cases h

/-- What an event has to do with the runs in an interpreter: only who is told by it is affected. -/
structure Stretch (i : Nat) (p : Point) (s : Session) (more : List Deed) (p' : Point)
    (s' : Session) : Prop where
  deeds : s'.deeds = s.deeds ++ more
  turn : p' = .rest ∨ p'.turn? = p.turn?
  host {a : Nat} : (s.attempts.map (·.interpreter))[a]? = some i →
    (s'.attempts.map (·.interpreter))[a]? = some i
  hosts {a : Nat} : p.turn? = some (.attempt a) →
    s'.attempts.map (·.interpreter) = s.attempts.map (·.interpreter)
  stays {e : Event} : p.turn? ≠ some e → Runs i p s e → Runs i p' s' e
  begun {e : Event} : BegunBy i s more e → p.turn? = some e ∧ ∀ x, Runs i p s x → x = e
  ran {e : Event} : Runs i p' s' e → Runs i p s e ∨ BegunBy i s more e

/-- More deeds, and the same attempt in the same interpreter. -/
theorem BegunBy.mono {deeds more : List Deed} (h : BegunBy i s deeds e) (hdeeds : deeds ⊆ more)
    (hhost : ∀ a, e = .attempt a → (s.attempts.map (·.interpreter))[a]? = some i →
      (s'.attempts.map (·.interpreter))[a]? = some i) : BegunBy i s' more e := by
  cases e with
  | job n => exact hdeeds h
  | attempt a => exact ⟨hdeeds h.1, hhost a rfl h.2⟩
  | relay | construction => cases h

theorem Begins.begunBy (h : Begins i s p' s' e) :
    ∃ deed, s'.deeds = s.deeds ++ [deed] ∧ BegunBy i s [deed] e := by
  cases e with
  | job n => exact ⟨_, h, List.mem_singleton_self _⟩
  | attempt a =>
    obtain ⟨-, hstage, hnew⟩ := h
    exact ⟨_, hnew, List.mem_singleton_self _, getElem?_hosts.mpr hstage⟩
  | relay | construction => cases h

theorem Stretch.move {more : List Deed} {q q' : Point} {t t' : Session}
    (c : Stretch i p s more q t) (m : Move (q, t) (q', t'))
    (h : Visits .orderly (fresh settings world [] none) q t) :
    ∃ more', Stretch i p s more' q' t' := by
  have hturn : q.turn? = p.turn? := c.turn.resolve_left (by rintro rfl; exact not_move_rest _ m)
  have hturn' : q' = .rest ∨ q'.turn? = p.turn? := hturn ▸ m.turn?
  have hhost {a : Nat} (ha : (s.attempts.map (·.interpreter))[a]? = some i) :
      (t'.attempts.map (·.interpreter))[a]? = some i := m.hosts_stay (c.host ha)
  have hhosts {a : Nat} (ha : p.turn? = some (.attempt a)) :
      t'.attempts.map (·.interpreter) = s.attempts.map (·.interpreter) := by
    rcases m.hosts with hsame | ⟨n, j, rfl, -⟩
    · exact hsame.trans (c.hosts ha)
    · cases hturn.trans ha
  have hstays {e : Event} (he : p.turn? ≠ some e) (hruns : Runs i p s e) : Runs i q' t' e :=
    m.runs_on (hturn ▸ he) (c.stays he hruns)
  have hbegins {e : Event} (he : Begins i t q' t' e) :
      p.turn? = some e ∧ ∀ x, Runs i p s x → x = e := by
    have hp : p.turn? = some e := hturn ▸ he.turn? m
    refine ⟨hp, fun x hx => by_contra fun hne => ?_⟩
    have hheld := h.guarded.held (c.stays (by simpa [hp] using Ne.symm hne) hx)
    rw [(he.takes m h.present).1] at hheld
    cases hheld
  have hran {e : Event} {deeds : List Deed} (hnew : t'.deeds = t.deeds ++ deeds)
      (he : Runs i q' t' e) : Runs i p s e ∨ BegunBy i s (more ++ deeds) e := by
    rcases m.runs h he with hold | hb
    · exact (c.ran hold).imp_right (·.mono (List.subset_append_left ..) fun _ _ => id)
    · obtain ⟨deed, hdeed, hbegun⟩ := hb.begunBy
      obtain rfl := List.append_cancel_left (hnew.symm.trans hdeed)
      refine .inr (hbegun.mono (List.subset_append_right ..) ?_)
      rintro a rfl ha
      exact c.hosts (hbegins hb).1 ▸ ha
  rcases m.deeds with hsame | ⟨deed, -, hnew⟩
  · have hnew : t'.deeds = t.deeds ++ [] := by rw [hsame, List.append_nil]
    exact ⟨more, hsame.trans c.deeds, hturn', hhost, hhosts, hstays, c.begun, fun he => by
      simpa using hran hnew he⟩
  · refine ⟨more ++ [deed], by rw [hnew, c.deeds, List.append_assoc], hturn', hhost, hhosts, hstays,
      fun he => ?_, hran hnew⟩
    rcases he.cases_append with hold | hlast
    · exact c.begun hold
    · exact hbegins (.of_begunBy m hnew (hlast.mono (List.Subset.refl _) fun _ _ => c.host))

theorem stretch_of_moves (h : Visits .orderly (fresh settings world [] none) p s)
    (m : Moves (p, s) (p', s')) : ∃ more, Stretch i p s more p' s' := by
  suffices ∀ x, Moves (p, s) x → Visits .orderly (fresh settings world [] none) x.1 x.2 ∧
      ∃ more, Stretch i p s more x.1 x.2 from (this _ m).2
  intro x m
  induction m with
  | refl =>
    refine ⟨h, [], (List.append_nil _).symm, .inr rfl, id, fun _ => rfl, fun _ => id, ?_, .inl⟩
    intro e he
    cases e with
    | job n => cases he
    | attempt a => cases he.1
    | relay | construction => cases he
  | tail _ m ih =>
    obtain ⟨hv, more, c⟩ := ih
    exact ⟨hv.move m, c.move m hv⟩

/-! Steps. -/

theorem runs_picked {event : Event} {ready : List Event} :
    Runs i (.picked event) { s with ready := ready } e ↔ UnderWay i s e := by
  rw [underWay_iff]
  cases e with
  | job n => exact .rfl
  | attempt a => simp [Runs, trial?, Point.attempt?]
  | relay | construction => exact .rfl

/-- While code runs in an interpreter nobody else's is executed there, and nobody else's begins to
run. -/
structure Exclusive (i : Nat) (cause : Cause) (s s' : Session) : Prop where
  acts {e x : Event} : Acts i cause s s' e →
    Acts i cause s s' x ∨ UnderWay i s x ∨ UnderWay i s' x → x = e
  underWay {x : Event} : UnderWay i s' x → UnderWay i s x ∨ Acts i cause s s' x

/-- At most one run is under way in an interpreter. -/
theorem Reaches.alone (h : Reaches .orderly (fresh settings world [] none) s)
    (he : UnderWay i s e) (hx : UnderWay i s x) : e = x :=
  (visits_of_reaches h).guarded.alone (underWay_iff.mp he) (underWay_iff.mp hx)

theorem Stretch.exclusive {event : Event} {ready : List Event} {more : List Deed}
    (c : Stretch i (.picked event) { s with ready := ready } more .rest s')
    (h : Reaches .orderly (fresh settings world [] none) s) :
    Exclusive i (.fire event) s s' := by
  have hdeeds : s'.deeds = s.deeds ++ more := c.deeds
  have hbegun {e : Event} (he : BegunBy i s more e) :
      some event.actor = some e ∧ ∀ x, UnderWay i s x → x = e :=
    (c.begun he).imp_right fun halone x hx => halone x (runs_picked.mpr hx)
  have hran {e : Event} (he : UnderWay i s' e) : UnderWay i s e ∨ BegunBy i s more e :=
    (c.ran (underWay_iff.mp he)).imp_left runs_picked.mp
  have hmore {deeds : List Deed} {e : Event} (hnew : s'.deeds = s.deeds ++ deeds)
      (he : BegunBy i s deeds e) : BegunBy i s more e :=
    List.append_cancel_left (hnew.symm.trans hdeeds) ▸ he
  have hinvolved {x : Event} (hx : Acts i (.fire event) s s' x ∨ UnderWay i s x ∨ UnderWay i s' x) :
      UnderWay i s x ∨ BegunBy i s more x := by
    rcases hx with (⟨hnew, hx⟩ | hx) | hx | hx
    · exact .inr (hmore hnew hx)
    · exact .inl hx
    · exact .inl hx
    · exact hran hx
  refine ⟨fun {e x} he hx => ?_, fun hx => (hran hx).imp_right (.begins hdeeds)⟩
  cases he with
  | begins hnew he =>
    obtain ⟨hactor, halone⟩ := hbegun (hmore hnew he)
    rcases hinvolved hx with hx | hx
    · exact halone x hx
    · exact Option.some.inj ((hbegun hx).1.symm.trans hactor)
  | goesOn he =>
    rcases hinvolved hx with hx | hx
    · exact h.alone hx he
    · exact ((hbegun hx).2 _ he).symm

theorem Step.exclusive {cause : Cause} (step : Step cause s s')
    (h : Reaches .orderly (fresh settings world [] none) s) : Exclusive i cause s s' := by
  cases step with
  | @fire _ event ready =>
    obtain ⟨more, c⟩ :=
      stretch_of_moves ((visits_of_reaches h).pick ready trivial) (moves_fire event _)
    exact c.exclusive h
  | submit request =>
    exact ⟨nofun, fun hx => .inl (underWay_iff.mpr (underWay_iff.mp hx).submit)⟩
  | close =>
    refine ⟨nofun, fun {x} hx => .inl ?_⟩
    obtain ⟨world, cells, -, -, hclose | hclose⟩ := close_eq s
    all_goals
      rw [hclose] at hx
      cases x <;> exact hx
  | outside world =>
    refine ⟨nofun, fun {x} hx => .inl ?_⟩
    cases x <;> exact hx

/-- Where no run is under way nothing is pending. -/
theorem Reaches.pending_eq {rule : Rule} (h : Reaches rule (fresh settings world [] none) s)
    (hi : ∀ e, ¬UnderWay i s e) : (s.cell i).interpreter.pending = [] := by
  have htidy : Tidy s := h.tidy ⟨fun i _ => .inr (by simp [CalmAt, fresh]), by simp [fresh, stage?],
    by simp [fresh, loading?]⟩
  have hfree : ¬Occupied i s := fun hoccupied =>
    (occupied_iff.mp hoccupied).elim hi
  have hcalm := (htidy.calm i (by simp)).resolve_left hfree
  rcases hcell : s.cells[i]? with _ | cell
  · simp only [Session.cell, hcell]
    rfl
  · simpa [Session.cell, hcell] using (hcalm cell hcell).pending

/-! Output. -/

/-- A run may have written what is pending in an interpreter: it was executed there since nothing
was. -/
inductive Wrote (rule : Rule) (s₀ : Session) (i : Nat) (e : Event) : Session → Prop
  | now {cause : Cause} {s s' : Session} (h : Reaches rule s₀ s) (step : Step cause s s')
      (allowed : rule cause s) (acts : Acts i cause s s' e)
      (pending : (s'.cell i).interpreter.pending ≠ []) : Wrote rule s₀ i e s'
  | before {cause : Cause} {s s' : Session} (h : Reaches rule s₀ s) (step : Step cause s s')
      (allowed : rule cause s) (wrote : Wrote rule s₀ i e s)
      (pending : (s'.cell i).interpreter.pending ≠ []) : Wrote rule s₀ i e s'

/-- Characters of a run may be in a text that an interpreter hands to the host in a step: what is
pending may be of the run, or the run is executed in the step. -/
def Contributes (rule : Rule) (s₀ : Session) (i : Nat) (cause : Cause) (s s' : Session)
    (e : Event) : Prop :=
  Wrote rule s₀ i e s ∨ Acts i cause s s' e

/-- Whoever wrote what is pending is under way. -/
theorem Wrote.underWay (h : Wrote .orderly (fresh settings world [] none) i e s) :
    UnderWay i s e := by
  have hsome {s : Session} (h : Reaches .orderly (fresh settings world [] none) s)
      (hpending : (s.cell i).interpreter.pending ≠ []) : ∃ x, UnderWay i s x := by
    by_contra hnone
    exact hpending (h.pending_eq (not_exists.mp hnone))
  induction h with
  | now h step allowed acts pending =>
    obtain ⟨x, hx⟩ := hsome (h.step step allowed) pending
    exact (step.exclusive h).acts acts (.inr (.inr hx)) ▸ hx
  | before h step allowed _ pending ih =>
    obtain ⟨x, hx⟩ := hsome (h.step step allowed) pending
    rcases (step.exclusive h).underWay hx with hold | hacts
    · exact h.alone hold ih ▸ hx
    · exact (step.exclusive h).acts hacts (.inr (.inl ih)) ▸ hx

theorem Contributes.eq {cause : Cause} (step : Step cause s s')
    (h : Reaches .orderly (fresh settings world [] none) s)
    (he : Contributes .orderly (fresh settings world [] none) i cause s s' e)
    (hx : Contributes .orderly (fresh settings world [] none) i cause s s' x) : e = x := by
  have hexclusive : Exclusive i cause s s' := step.exclusive h
  rcases he with he | he <;> rcases hx with hx | hx
  · exact h.alone he.underWay hx.underWay
  · exact hexclusive.acts hx (.inr (.inl he.underWay))
  · exact (hexclusive.acts he (.inr (.inl hx.underWay))).symm
  · exact hexclusive.acts hx (.inl he)

theorem pending_leave {scene : Scene} (h : scene.pending = some []) (i : Nat) (s : Session) :
    ((s.leave i scene).cell i).interpreter.pending = [] := by
  simp only [leave, mapCell, cell, List.getElem?_modify]
  rcases s.cells[i]? with _ | cell
  · rfl
  · simp [Interpreter.leftBy, h]

/-- Runs in one interpreter exclude each other, and what they write does not mix. Whatever is asked
for, in whatever order things happen, whatever fails and whatever the host refuses: as long as a run
is under way in an interpreter, no other is executed there; nothing is pending when none is under
way, when one ends or when a probe ends; and a text that is handed to the host never has characters
of two runs. -/
theorem runs_exclude (settings : Settings) (world : World) {s : Session}
    (h : Reaches .orderly (fresh settings world [] none) s) (i : Nat) :
    (∀ e x, UnderWay i s e → UnderWay i s x → e = x) ∧
    ((∀ e, ¬UnderWay i s e) → (s.cell i).interpreter.pending = []) ∧
    (∀ cause s', Step cause s s' → Rule.orderly cause s →
      (∀ e x, Acts i cause s s' e →
        Acts i cause s s' x ∨ UnderWay i s x ∨ UnderWay i s' x → x = e) ∧
      (∀ e, Acts i cause s s' e → ¬UnderWay i s' e → (s'.cell i).interpreter.pending = []) ∧
      ∀ e x, Contributes .orderly (fresh settings world [] none) i cause s s' e →
        Contributes .orderly (fresh settings world [] none) i cause s s' x → e = x) ∧
    (∀ (t : Session) own file source, (runChunk own file source (t.scene i)).Clears) ∧
    ∀ (t : Session) n root,
      (((environment n i).probe root t).2.cell i).interpreter.pending = [] := by
  refine ⟨fun e x => h.alone, h.pending_eq, fun cause s' step allowed => ?_, ?_, ?_⟩
  · have hexclusive : Exclusive i cause s s' := step.exclusive h
    refine ⟨fun e x => hexclusive.acts, fun e he hover => ?_, fun e x => Contributes.eq step h⟩
    apply (h.step step allowed).pending_eq
    intro x hx
    obtain rfl := hexclusive.acts he (.inr (.inr hx))
    exact hover hx
  · intro t own file source
    exact clears_runChunk file source (scene_buffered i t)
  · intro t n root
    exact pending_leave (pending_probe root (scene_buffered i t)) i t

/-- The first chunk waits with a text pending, the second for the first. -/
theorem runs_exclude_while_waiting : ∃ s, Reaches .orderly (fresh default {} [] none) s ∧
    UnderWay 0 s (.job 0) ∧ (s.cell 0).interpreter.pending = ['a'] ∧
      (s.cell 0).lock.waiting = [.job 1] ∧
      ∀ cause s', Step cause s s' → Rule.orderly cause s →
        ∀ x, Acts 0 cause s s' x → .job 0 = x := by
  let s := (((fresh default {} [] none).submit
    (.evaluate "print('a', end='')\nawait tick()\nprint('b')")).submit
    (.evaluate "print('c')")).settle 7
  have hs : Reaches .orderly (fresh default {} [] none) s :=
    ((Reaches.step .refl (.submit _) trivial).step (.submit _) trivial).trans
      (reaches_settle (fun _ _ => trivial) 7 _)
  have hrunning : (place 0 .rest s).running? = some 0 := by decide +kernel
  have hunderWay : UnderWay 0 s (.job 0) := underWay_of_running? (visits_of_reaches hs) hrunning
  obtain ⟨-, -, hsteps, -⟩ := runs_exclude default {} hs 0
  refine ⟨s, hs, hunderWay, by decide +kernel, by decide +kernel, ?_⟩
  intro cause s' step allowed x hx
  exact (hsteps cause s' step allowed).1 x (.job 0) hx (.inr (.inl hunderWay))

end Chunkwise.Session
