import Chunkwise.Execution.Frame

/-!
How computations end. At its turns a run goes on from any scene that others leave, so it can end in
more than one way. What a computation raises is traced back to where it was raised, with the places
that it has passed since then.
-/
namespace Chunkwise.Execution

variable {α β : Type} {s t : Scene}

/-- A run can end with a result in a scene. -/
inductive Run.Ends : Run α → α → Scene → Prop
  | done {a : α} {s : Scene} : Ends (.done a s) a s
  | resumed {s t : Scene} {resume : Scene → Run α} {a : α} (s' : Scene) (h : Ends (resume s') a t) :
      Ends (.suspended s resume) a t

namespace Run

theorem ends_done {a a' : α} : (Run.done a s).Ends a' t ↔ a' = a ∧ t = s := by
  refine ⟨fun h => ?_, ?_⟩
  · cases h
    exact ⟨rfl, rfl⟩
  · rintro ⟨rfl, rfl⟩
    exact .done

theorem not_ends_exhausted {a : α} : ¬(Run.exhausted : Run α).Ends a t := nofun

theorem Ends.andThen {r : Run α} {next : α → Scene → Run β} {a : α} {b : β} (h : r.Ends a s)
    (hnext : (next a s).Ends b t) : (r.andThen next).Ends b t := by
  induction h with
  | done => exact hnext
  | resumed s' _ ih => exact .resumed s' (ih hnext)

theorem ends_andThen {r : Run α} {next : α → Scene → Run β} {b : β} :
    (r.andThen next).Ends b t ↔ ∃ a s, r.Ends a s ∧ (next a s).Ends b t := by
  refine ⟨fun h => ?_, fun ⟨_, _, ha, hb⟩ => ha.andThen hb⟩
  induction r with
  | done a s => exact ⟨a, s, .done, h⟩
  | suspended s resume ih =>
    cases h with
    | resumed s' h =>
      obtain ⟨a, t', ha, hb⟩ := ih s' h
      exact ⟨a, t', .resumed s' ha, hb⟩
  | exhausted => cases h

/-- A run goes on as another from the scenes that others leave at its turns. -/
inductive Leads : Run α → Run α → Prop
  | refl {r : Run α} : Leads r r
  | resumed {r : Run α} {s : Scene} {resume : Scene → Run α} (s' : Scene)
      (h : Leads r (.suspended s resume)) : Leads r (resume s')

theorem Leads.ends {r r' : Run α} {a : α} (h : r.Leads r') (he : r'.Ends a t) : r.Ends a t := by
  induction h with
  | refl => exact he
  | resumed s' _ ih => exact ih (.resumed s' he)

end Run

/-- An exception on its way out, behind places that it has passed. -/
def Raised.behind (places : List Place) (r : Raised) : Raised :=
  { r with trace := places ++ r.trace }

/-- The place of a frame at a position of its code. -/
def Frame.at_ (frame : Frame) (pos : Code.Pos) : Place :=
  ⟨frame.file, pos.line, frame.name⟩

namespace Eval

/-- A computation can give a value. -/
def Returns (m : Eval α) (s : Scene) (a : α) (t : Scene) : Prop :=
  (m s).Ends (.ok a) t

/-- A computation can raise an exception. -/
def Raises (m : Eval α) (s : Scene) (raised : Raised) (t : Scene) : Prop :=
  (m s).Ends (.error raised) t

variable {m : Eval α} {next : α → Eval β} {a : α} {b : β} {raised : Raised}

theorem returns_give {a' : α} : Returns (give a) s a' t ↔ a' = a ∧ t = s := by
  simp [Returns, give, Run.ends_done]

theorem returns_pure {a' : α} : Returns (pure a) s a' t ↔ a' = a ∧ t = s :=
  returns_give

theorem not_raises_give : ¬Raises (give a) s raised t := by
  simp [Raises, give, Run.ends_done]

theorem not_raises_pure : ¬Raises (pure a : Eval α) s raised t :=
  not_raises_give

theorem returns_bind :
    Returns (m >>= next) s b t ↔ ∃ a s', Returns m s a s' ∧ Returns (next a) s' b t := by
  refine Run.ends_andThen.trans ⟨?_, ?_⟩
  · rintro ⟨_ | a, s', hm, h⟩
    · cases h
    · exact ⟨a, s', hm, h⟩
  · rintro ⟨a, s', hm, h⟩
    exact ⟨.ok a, s', hm, h⟩

theorem Returns.bind {s' : Scene} (h : Returns m s a s') (hnext : Returns (next a) s' b t) :
    Returns (m >>= next) s b t :=
  returns_bind.mpr ⟨a, s', h, hnext⟩

theorem raises_bind :
    Raises (m >>= next) s raised t ↔
      Raises m s raised t ∨ ∃ a s', Returns m s a s' ∧ Raises (next a) s' raised t := by
  refine Run.ends_andThen.trans ⟨?_, ?_⟩
  · rintro ⟨raised' | a, s', hm, h⟩
    · obtain ⟨hr, rfl⟩ := Run.ends_done.mp h
      cases hr
      exact .inl hm
    · exact .inr ⟨a, s', hm, h⟩
  · rintro (hm | ⟨a, s', hm, h⟩)
    · exact ⟨.error raised, t, hm, .done⟩
    · exact ⟨.ok a, s', hm, h⟩

theorem returns_here {frame : Frame} {pos : Code.Pos} :
    Returns (frame.here pos m) s a t ↔ Returns m s a t := by
  refine Run.ends_andThen.trans ⟨?_, fun h => ⟨.ok a, t, h, .done⟩⟩
  rintro ⟨_ | a', s', hm, h⟩ <;> obtain ⟨ha, rfl⟩ := Run.ends_done.mp h <;> cases ha
  exact hm

theorem raises_here {frame : Frame} {pos : Code.Pos} :
    Raises (frame.here pos m) s raised t ↔
      ∃ first, Raises m s first t ∧ raised = first.passing (frame.at_ pos) := by
  refine Run.ends_andThen.trans ⟨?_, ?_⟩
  · rintro ⟨first | a', s', hm, h⟩ <;> obtain ⟨hr, rfl⟩ := Run.ends_done.mp h <;> cases hr
    exact ⟨first, hm, rfl⟩
  · rintro ⟨first, hm, rfl⟩
    exact ⟨.error first, t, hm, .done⟩

theorem returns_attempt {result : Except Raised α} :
    Returns (attempt m) s result t ↔ (m s).Ends result t := by
  refine Run.ends_andThen.trans ⟨?_, fun h => ⟨result, t, h, .done⟩⟩
  rintro ⟨result', s', hm, h⟩
  obtain ⟨ha, rfl⟩ := Run.ends_done.mp h
  cases ha
  exact hm

theorem not_raises_attempt : ¬Raises (attempt m) s raised t := by
  intro h
  obtain ⟨_, _, _, h⟩ := Run.ends_andThen.mp h
  cases (Run.ends_done.mp h).1

theorem returns_look {f : Store → α} : Returns (look f) s a t ↔ a = f s.store ∧ t = s := by
  simp [Returns, look, Run.ends_done]

theorem not_raises_look {f : Store → α} : ¬Raises (look f) s raised t := by
  simp [Raises, look, Run.ends_done]

theorem not_raises_mapScene {f : Scene → Scene} : ¬Raises (mapScene f) s raised t := by
  simp [Raises, mapScene, Run.ends_done]

theorem not_raises_exhausted : ¬Raises (exhausted : Eval α) s raised t :=
  Run.not_ends_exhausted

theorem raises_throw {raised' : Raised} :
    Raises (throw raised' : Eval α) s raised t ↔ raised = raised' ∧ t = s := by
  simp [Raises, throw, Run.ends_done]

theorem not_returns_fail {fault : Fault} : ¬Returns (fail fault : Eval α) s a t := by
  intro h
  simp only [Returns, fail, step] at h
  split at h <;> cases (Run.ends_done.mp h).1

theorem returns_ofExcept {result : Except Fault α} :
    Returns (ofExcept result) s a t ↔ result = .ok a ∧ t = s := by
  cases result with
  | ok a' => exact returns_give.trans (and_congr_left fun _ => by simp [eq_comm])
  | error fault => exact iff_of_false not_returns_fail (by simp)

/-- An action that always succeeds raises nothing. -/
theorem not_raises_act {action : Store.Action α} (h : ∀ store, ∃ a, (action store).1 = .ok a) :
    ¬Raises (act action) s raised t := by
  obtain ⟨a, ha⟩ := h s.store
  have hact : s.act action =
      (.ok a, { s with world := { s.world with store := (action s.store).2 } }) := by
    rw [← ha]
    rfl
  simp [Raises, act, step, hact, Run.ends_done]

theorem not_raises_make {object : Object} : ¬Raises (act (Store.Action.make object)) s raised t :=
  not_raises_act fun _ => ⟨_, rfl⟩

/-! Tracing what is raised. -/

/-- What is raised is an exception from one of some origins, behind the places that it has passed
since then. -/
def Traced (Origin : List Place → Raised → Scene → Prop) (raised : Raised) : Prop :=
  ∃ places first t, Origin places first t ∧ raised = first.behind places

/-- All that a computation raises is traced to one of some origins. -/
def Traces (Origin : List Place → Raised → Scene → Prop) (m : Eval α) (s : Scene) : Prop :=
  ∀ raised t, Raises m s raised t → Traced Origin raised

variable {Origin Origin' : List Place → Raised → Scene → Prop}

theorem traces_of_not (h : ∀ raised t, ¬Raises m s raised t) : Traces Origin m s :=
  fun raised t hr => absurd hr (h raised t)

theorem traces_pure : Traces Origin (pure a : Eval α) s :=
  traces_of_not fun _ _ => not_raises_pure

theorem traces_give : Traces Origin (give a : Eval α) s :=
  traces_pure

theorem traces_look {f : Store → α} : Traces Origin (look f) s :=
  traces_of_not fun _ _ => not_raises_look

theorem traces_mapScene {f : Scene → Scene} : Traces Origin (mapScene f) s :=
  traces_of_not fun _ _ => not_raises_mapScene

theorem traces_exhausted : Traces Origin (exhausted : Eval α) s :=
  traces_of_not fun _ _ => not_raises_exhausted

theorem traces_attempt : Traces Origin (attempt m) s :=
  traces_of_not fun _ _ => not_raises_attempt

/-- What is raised at once has passed no place. -/
theorem traces_self (h : ∀ raised t, Raises m s raised t → Origin [] raised t) :
    Traces Origin m s :=
  fun raised t hr => ⟨[], raised, t, h raised t hr, rfl⟩

/-- What is raised at once at a position of a frame has passed that place. -/
theorem traces_here {frame : Frame} {pos : Code.Pos}
    (h : ∀ raised t, Raises m s raised t → Origin [frame.at_ pos] raised t) :
    Traces Origin (frame.here pos m) s := by
  intro raised t hr
  obtain ⟨first, hfirst, rfl⟩ := raises_here.mp hr
  exact ⟨_, first, t, h first t hfirst, rfl⟩

theorem Traced.mono (h : Traced Origin raised)
    (himp : ∀ places first t, Origin places first t → Origin' places first t) :
    Traced Origin' raised :=
  have ⟨places, first, t, hfirst, hraised⟩ := h
  ⟨places, first, t, himp _ _ _ hfirst, hraised⟩

theorem Traces.mono (h : Traces Origin m s)
    (himp : ∀ places first t, Origin places first t → Origin' places first t) :
    Traces Origin' m s :=
  fun raised t hr => (h raised t hr).mono himp

/-- What leaves a frame has passed the place where it came into it. -/
theorem Traces.here {frame : Frame} {pos : Code.Pos} (h : Traces Origin m s)
    (himp : ∀ places first t, Origin places first t → Origin' (frame.at_ pos :: places) first t) :
    Traces Origin' (frame.here pos m) s := by
  intro raised t hr
  obtain ⟨first, hfirst, rfl⟩ := raises_here.mp hr
  obtain ⟨places, first, t', horigin, rfl⟩ := h _ _ hfirst
  exact ⟨_, first, t', himp _ _ _ horigin, rfl⟩

theorem traces_throw (h : Traced Origin raised) : Traces Origin (throw raised : Eval α) s := by
  intro raised' t hr
  obtain ⟨rfl, -⟩ := raises_throw.mp hr
  exact h

theorem Traces.bind (h : Traces Origin m s)
    (hnext : ∀ a s', Returns m s a s' → Traces Origin (next a) s') :
    Traces Origin (m >>= next) s := by
  intro raised t hr
  rcases raises_bind.mp hr with hm | ⟨a, s', hm, hr⟩
  · exact h raised t hm
  · exact hnext a s' hm raised t hr

theorem Traces.map (f : α → β) (h : Traces Origin m s) : Traces Origin (f <$> m) s :=
  h.bind fun _ _ _ => traces_pure

/-- What follows a computation learns how it ended. -/
theorem Traces.attempt_bind {next : Except Raised α → Eval β} (h : Traces Origin m s)
    (hok : ∀ a s', Returns m s a s' → Traces Origin (next (.ok a)) s')
    (herror : ∀ raised s', Raises m s raised s' → Traced Origin raised →
      Traces Origin (next (.error raised)) s') : Traces Origin (attempt m >>= next) s := by
  refine traces_attempt.bind fun result s' hr => ?_
  cases result with
  | ok a => exact hok a s' (returns_attempt.mp hr)
  | error raised => exact herror raised s' (returns_attempt.mp hr) (h _ _ (returns_attempt.mp hr))

/-- A look at the store goes on in the same scene. -/
theorem traces_bind_look {f : Store → α} (h : Traces Origin (next (f s.store)) s) :
    Traces Origin (look f >>= next) s := by
  refine traces_look.bind fun a s' ha => ?_
  obtain ⟨rfl, rfl⟩ := returns_look.mp ha
  exact h

end Eval

end Chunkwise.Execution
