import Chunkwise.Proofs.Session.Moves

/-!
The points that a run comes by. What holds at the start and is kept by every move, and by all that
happens between two events, holds all along; and each deed on record was done at a point that the
run came by.
-/
namespace Chunkwise.Session
open Chunkwise.Execution

/-- The points that a run comes by, with the session at each. -/
inductive Visits (rule : Rule) (s₀ : Session) : Point → Session → Prop
  | start : Visits rule s₀ .rest s₀
  | move {p p' : Point} {s s' : Session} (h : Visits rule s₀ p s) (m : Move (p, s) (p', s')) :
      Visits rule s₀ p' s'
  | pick {s : Session} {event : Event} (h : Visits rule s₀ .rest s) (ready : event ∈ s.ready)
      (allowed : rule (.fire event) s) :
      Visits rule s₀ (.picked event) { s with ready := s.ready.erase event }
  | submit {s : Session} (request : Request) (h : Visits rule s₀ .rest s)
      (allowed : rule (.submit request) s) : Visits rule s₀ .rest (s.submit request)
  /-- The world changes, or an interpreter is told to give up what it holds back. -/
  | change {s : Session} (world : World) (cells : List Cell) (h : Visits rule s₀ .rest s)
      (locks : cells.map (·.lock) = s.cells.map (·.lock))
      (allowed : world.installer = s.world.installer ∨ rule (.outside world) s) :
      Visits rule s₀ .rest { s with world := world, cells := cells }
  | close {s : Session} (world : World) (cells : List Cell) (h : Visits rule s₀ .rest s)
      (locks : cells.map (·.lock) = s.cells.map (·.lock))
      (kept : world.installer = s.world.installer) (allowed : rule .close s) :
      Visits rule s₀ .rest { s with
        world := world
        cells := cells
        current := none
        construction := none
        crossings := s.crossings ++ [{}]
        bridge := s.crossings.length }

variable {rule : Rule} {s₀ s₁ s s' : Session} {p p' : Point} {n c a : Nat}

theorem Visits.moves (h : Visits rule s₀ p s) (m : Moves (p, s) (p', s')) :
    Visits rule s₀ p' s' := by
  suffices ∀ x, Moves (p, s) x → Visits rule s₀ x.1 x.2 from this _ m
  intro x m
  induction m with
  | refl => exact h
  | tail _ m ih => exact ih.move m

/-- Closing a session tells its interpreter to give up what it holds back. Unless that is a fault,
the interpreter and the bridge are forgotten. -/
theorem close_eq (s : Session) : ∃ (world : World) (cells : List Cell),
    cells.map (·.lock) = s.cells.map (·.lock) ∧ world.installer = s.world.installer ∧
      (s.close.2 = { s with world := world, cells := cells } ∨
        s.close.2 = { s with
          world := world
          cells := cells
          current := none
          construction := none
          crossings := s.crossings ++ [{}]
          bridge := s.crossings.length }) := by
  rcases Option.eq_none_or_eq_some s.current with hcurrent | ⟨i, hcurrent⟩
  · exact ⟨s.world, s.cells, rfl, rfl, .inr (by simp only [Session.close, hcurrent])⟩
  · have hkept := (s.cell i).interpreter.close_installer s.world
    simp only [Session.close, hcurrent]
    revert hkept
    rcases (s.cell i).interpreter.close s.world with ⟨_ | fault, interpreter, w⟩ <;> intro hkept
    all_goals
      refine ⟨w, _, locks_mapCell i (f := fun cell => { cell with interpreter := interpreter })
        (fun _ => rfl) s, hkept, ?_⟩
    · exact .inr rfl
    · exact .inl (by simp only [mapCell, hcurrent])

theorem visits_of_reaches (h : Reaches rule s₀ s) : Visits rule s₀ .rest s := by
  induction h with
  | refl => exact .start
  | tail _ hstep ih =>
    obtain ⟨cause, hstep, allowed⟩ := hstep
    cases hstep with
    | submit request => exact .submit request ih allowed
    | fire ready => exact (ih.pick ready allowed).moves (moves_fire _ _)
    | close =>
      obtain ⟨world, cells, locks, kept, hclose | hclose⟩ := close_eq _
      · exact hclose ▸ ih.change world cells locks (.inl kept)
      · exact hclose ▸ ih.close world cells locks kept allowed
    | outside world => exact .change world _ ih rfl (.inr allowed)

theorem Visits.trans (h : Visits rule s₀ .rest s₁) (h' : Visits rule s₁ p s) :
    Visits rule s₀ p s := by
  induction h' with
  | start => exact h
  | move _ m ih => exact ih.move m
  | pick _ ready allowed ih => exact ih.pick ready allowed
  | submit request _ allowed ih => exact ih.submit request allowed
  | change world cells _ locks allowed ih => exact ih.change world cells locks allowed
  | close world cells _ locks kept allowed ih => exact ih.close world cells locks kept allowed

/-! What is asked for stays what it is. -/

/-- A session with all that another was asked for. -/
structure Later (s s' : Session) : Prop where
  settings : s'.settings = s.settings
  request {n : Nat} {request : Request} : s.request? n = some request →
    s'.request? n = some request

theorem Later.trans (h : Later s s₁) (h' : Later s₁ s') : Later s s' :=
  ⟨h'.settings.trans h.settings, fun hr => h'.request (h.request hr)⟩

theorem request?_setJob (m n : Nat) (stage : Stage) (s : Session) :
    (s.setJob m stage).request? n = s.request? n := by
  simp only [request?, setJob, List.getElem?_modify]
  split <;> cases s.jobs[n]? <;> simp

theorem Later.scanOf (h : Later s s') (hn : s.request? n ≠ none) : s'.scanOf n = s.scanOf n := by
  obtain ⟨request, hr⟩ := Option.ne_none_iff_exists'.mp hn
  simp [Session.scanOf, h.request hr, hr, name?, heavy, h.settings]

theorem Move.request?_eq (m : Move (p, s) (p', s')) (n : Nat) : s'.request? n = s.request? n := by
  cases m
  all_goals first
    | rfl
    | exact request?_setJob ..

theorem Move.settings_eq (m : Move (p, s) (p', s')) : s'.settings = s.settings := by
  cases m <;> rfl

theorem Move.scanOf_eq (m : Move (p, s) (p', s')) (n : Nat) : s'.scanOf n = s.scanOf n := by
  simp only [Session.scanOf, m.request?_eq, name?, heavy, m.settings_eq]

theorem Move.later (m : Move (p, s) (p', s')) : Later s s' :=
  ⟨m.settings_eq, fun hr => (m.request?_eq _).trans hr⟩

theorem request?_submit (request : Request) (s : Session) :
    (s.submit request).request? n =
      if n = s.jobs.length then some request else s.request? n := by
  simp only [submit, request?, wake, List.getElem?_append]
  grind

theorem scanOf_submit (request : Request) (s : Session) (hn : n ≠ s.jobs.length) :
    (s.submit request).scanOf n = s.scanOf n := by
  unfold Session.scanOf
  rw [request?_submit, if_neg hn]
  rfl

theorem later_submit (request : Request) (s : Session) : Later s (s.submit request) := by
  refine ⟨rfl, fun {n old} hr => ?_⟩
  have hn : n ≠ s.jobs.length := by
    rintro rfl
    simp [request?] at hr
  rw [request?_submit, if_neg hn, hr]

theorem Visits.later (h : Visits rule s₀ p s) : Later s₀ s := by
  induction h with
  | start => exact ⟨rfl, id⟩
  | move _ m ih => exact ih.trans m.later
  | submit request _ _ ih => exact ih.trans (later_submit request _)
  | pick _ _ _ ih | change _ _ _ _ _ ih | close _ _ _ _ _ _ ih => exact ih.trans ⟨rfl, id⟩

/-! The record. -/

/-- What is done at a point. -/
inductive Occasion : Point → Session → Deed → Prop
  | prepare {s : Session} {c : Nat} (h : s.making? c = some .starting) :
      Occasion (.picked (.construction c)) s (.prepare c)
  | prepared {s : Session} {c : Nat} (success : Bool) :
      Occasion (.making c) s (.prepared c success)
  | strive {s : Session} {a : Nat} {deed : Deed} (h : deed.attempt? = some a) :
      Occasion (.crossing a) s deed
  | adaptNext {s : Session} {a : Nat} {source : String}
      (h : s.loading? a = some (.queuedToRun source)) :
      Occasion (.picked (.attempt a)) s (.adapt a)
  | settled {s : Session} {a : Nat} (success : Bool) :
      Occasion (.adapted a) s (.settled a success)
  | arrive {s : Session} {a : Nat} : Occasion (.adapted a) s (.crossed a (s.interpreterOf a))
  | awaitConstruction {s : Session} {n c : Nat} :
      Occasion (.job n (.watch c)) s (.awaitConstruction n c)
  | enter {s : Session} {n i : Nat} : Occasion (.job n (.enter i)) s (.enter n i)
  | awaitAttempt {s : Session} {n i a : Nat} :
      Occasion (.job n (.cross i)) s (.awaitAttempt n a)
  | search {s : Session} {n i : Nat} (free : s.resolving.isFree) :
      Occasion (.job n (.resolve i)) s (.search n)
  | searchNext {s : Session} {n i : Nat} (h : s.stage? n = some (.queuedToResolve i))
      (turn : s.resolving.admits (.job n)) :
      Occasion (.picked (.job n)) s (.search n)
  | probe {s : Session} {n i : Nat} {root : String} {left missing : List String}
      (answer : Option Bool) :
      Occasion (.job n (.search i (root :: left) missing)) s (.probe n root answer)
  | request {s : Session} {n i : Nat} {missing : List String} (h : missing ≠ []) :
      Occasion (.job n (.search i [] missing)) s (.request n missing)
  | installed {s : Session} {n i : Nat} {missing : List String} (success : Bool) :
      Occasion (.job n (.install i missing)) s (.installed n missing success)
  | searched {s : Session} {n i : Nat} {fault : Option Fault} :
      Occasion (.job n (.conclude i fault)) s (.searched n)
  | run {s : Session} {n i : Nat} : Occasion (.job n (.execute i)) s (.run n i)
  | runNext {s : Session} {n i : Nat} (h : s.stage? n = some (.queuedToRun i)) :
      Occasion (.picked (.job n)) s (.run n i)

/-- A move puts at most one deed on record, and that has its occasion. -/
theorem Move.deeds (m : Move (p, s) (p', s')) :
    s'.deeds = s.deeds ∨ ∃ deed, Occasion p s deed ∧ s'.deeds = s.deeds ++ [deed] := by
  cases m
  case strive h => exact .inr ⟨_, .strive (Deed.attempt?_of_striver? h), rfl⟩
  case prepare h => exact .inr ⟨_, .prepare h, rfl⟩
  case failConstruction => exact .inr ⟨_, .prepared false, rfl⟩
  case construct => exact .inr ⟨_, .prepared true, rfl⟩
  case adapt => exact .inr ⟨_, .strive rfl, rfl⟩
  case adaptNext h _ => exact .inr ⟨_, .adaptNext h, rfl⟩
  case settle success => exact .inr ⟨_, .settled success, rfl⟩
  case arrive => exact .inr ⟨_, .arrive, rfl⟩
  case watchEnded => exact .inr ⟨_, .awaitConstruction, rfl⟩
  case watch => exact .inr ⟨_, .awaitConstruction, rfl⟩
  case enterHeavy => exact .inr ⟨_, .enter, rfl⟩
  case enterLight => exact .inr ⟨_, .enter, rfl⟩
  case enterIdle => exact .inr ⟨_, .enter, rfl⟩
  case watchAttempt => exact .inr ⟨_, .awaitAttempt, rfl⟩
  case newAttempt => exact .inr ⟨_, .awaitAttempt, rfl⟩
  case search free => exact .inr ⟨_, .search free, rfl⟩
  case searchNext h turn => exact .inr ⟨_, .searchNext h turn, rfl⟩
  case probe answer _ _ _ _ _ _ _ => exact .inr ⟨_, .probe (some answer), rfl⟩
  case abandon => exact .inr ⟨_, .probe none, rfl⟩
  case request h => exact .inr ⟨_, .request h, rfl⟩
  case installed => exact .inr ⟨_, .installed true, rfl⟩
  case installFailed => exact .inr ⟨_, .installed false, rfl⟩
  case conclude => exact .inr ⟨_, .searched, rfl⟩
  case concludeFault => exact .inr ⟨_, .searched, rfl⟩
  case execute => exact .inr ⟨_, .run, rfl⟩
  case executeNext h _ => exact .inr ⟨_, .runNext h, rfl⟩
  all_goals exact .inl rfl

theorem Move.mem_deeds (m : Move (p, s) (p', s')) {deed : Deed} (h : deed ∈ s.deeds) :
    deed ∈ s'.deeds := by
  rcases m.deeds with hsame | ⟨last, -, hnew⟩
  · exact hsame ▸ h
  · exact hnew ▸ List.mem_append_left _ h

/-- A deed is on record already, or this is its occasion. -/
theorem Move.deed_cases (m : Move (p, s) (p', s')) {deed : Deed} (h : deed ∈ s'.deeds) :
    deed ∈ s.deeds ∨ Occasion p s deed := by
  rcases m.deeds with hsame | ⟨last, hlast, hnew⟩
  · exact .inl (hsame ▸ h)
  · rw [hnew, List.mem_append, List.mem_singleton] at h
    exact h.imp_right fun (e : deed = last) => e ▸ hlast

theorem Move.occasion (m : Move (p, s) (p', s')) {deed : Deed}
    (hdeeds : s'.deeds = s.deeds ++ [deed]) : Occasion p s deed := by
  rcases m.deeds with hsame | ⟨last, hlast, hnew⟩
  · simp [hsame] at hdeeds
  · obtain rfl : last = deed := by simpa [hnew] using hdeeds
    exact hlast

/-- Each deed on record was put there by a move of the run. -/
theorem Visits.moment (h : Visits rule s₀ p s) (h₀ : s₀.deeds = []) {before after : List Deed}
    {deed : Deed} (hs : s.deeds = before ++ deed :: after) :
    ∃ p₁ s₁ p₂ s₂, Visits rule s₀ p₁ s₁ ∧ Move (p₁, s₁) (p₂, s₂) ∧ s₁.deeds = before ∧
      s₂.deeds = before ++ [deed] ∧ Later s₁ s := by
  induction h generalizing after with
  | start => simp [h₀] at hs
  | @move p p' s s' h m ih =>
    rcases m.deeds with hsame | ⟨last, -, hnew⟩
    · obtain ⟨p₁, s₁, p₂, s₂, hv, hm, hb, hd, hl⟩ := ih (hsame ▸ hs)
      exact ⟨p₁, s₁, p₂, s₂, hv, hm, hb, hd, hl.trans m.later⟩
    · rcases List.eq_nil_or_concat after with rfl | ⟨after, _, rfl⟩
      · have hsplit := hs
        rw [hnew] at hsplit
        exact ⟨p, s, p', s', h, m, (List.append_inj' hsplit rfl).1, hs, m.later⟩
      · rw [hnew, List.concat_eq_append, ← List.cons_append, ← List.append_assoc] at hs
        obtain ⟨p₁, s₁, p₂, s₂, hv, hm, hb, hd, hl⟩ := ih (List.append_inj_left' hs rfl)
        exact ⟨p₁, s₁, p₂, s₂, hv, hm, hb, hd, hl.trans m.later⟩
  | submit request h allowed ih =>
    obtain ⟨p₁, s₁, p₂, s₂, hv, hm, hb, hd, hl⟩ := ih hs
    exact ⟨p₁, s₁, p₂, s₂, hv, hm, hb, hd, hl.trans (later_submit request _)⟩
  | pick _ _ _ ih | change _ _ _ _ _ ih | close _ _ _ _ _ _ ih =>
    obtain ⟨p₁, s₁, p₂, s₂, hv, hm, hb, hd, hl⟩ := ih hs
    exact ⟨p₁, s₁, p₂, s₂, hv, hm, hb, hd, hl.trans ⟨rfl, id⟩⟩

/-- Each deed on record was done at a point that the run came by. -/
theorem Visits.occasion (h : Visits rule s₀ p s) (h₀ : s₀.deeds = []) {before after : List Deed}
    {deed : Deed} (hs : s.deeds = before ++ deed :: after) :
    ∃ p₁ s₁, Visits rule s₀ p₁ s₁ ∧ Occasion p₁ s₁ deed ∧ s₁.deeds = before ∧ Later s₁ s := by
  obtain ⟨p₁, s₁, p₂, s₂, hv, m, rfl, hdeeds, hlater⟩ := h.moment h₀ hs
  exact ⟨p₁, s₁, hv, m.occasion hdeeds, rfl, hlater⟩

end Chunkwise.Session
