import Chunkwise.Proofs.Session.Places

/-!
Searches for packages. A lock keeps them apart: whoever searches holds it, and all that is done in
a search is on record between its begin and its end.
-/
namespace Chunkwise.Session
open Chunkwise.Execution

variable {rule : Rule} {settings : Settings} {world : World} {cells : List Cell}
variable {current : Option Nat} {s s' : Session} {p p' : Point} {m n : Nat}

/-- A job is between the begin and the end of its search. -/
def Searching (n : Nat) (p : Point) (s : Session) : Prop :=
  8 ≤ (place n p s).rank ∧ (place n p s).rank ≤ 10

/-- What a move does to searches. -/
inductive Hunt (p : Point) (s : Session) (p' : Point) (s' : Session) : Prop
  | stay (held : s'.resolving.held = s.resolving.held)
      (same : ∀ n, Searching n p' s' ↔ Searching n p s)
      (search : ∀ n, .search n ∈ s'.deeds ↔ .search n ∈ s.deeds)
      (searched : ∀ n, .searched n ∈ s.deeds → .searched n ∈ s'.deeds)
  | start {n : Nat} (free : s.resolving.held = false) (held : s'.resolving.held = true)
      (here : Searching n p' s') (others : ∀ m, m ≠ n → (Searching m p' s' ↔ Searching m p s))
      (deeds : s'.deeds = s.deeds ++ [.search n])
  | stop {n : Nat} (here : Searching n p s) (ended : ¬Searching n p' s')
      (others : ∀ m, m ≠ n → (Searching m p' s' ↔ Searching m p s))
      (deeds : s'.deeds = s.deeds ++ [.searched n])

theorem Lock.held_of_isFree {lock : Lock} (h : lock.isFree) : lock.held = false := by
  simp only [isFree, Bool.and_eq_true, Bool.not_eq_true'] at h
  exact h.1

theorem Lock.held_of_admits {lock : Lock} {event : Event} (h : lock.admits event) :
    lock.held = false := by
  simp only [admits, Bool.and_eq_true, Bool.not_eq_true'] at h
  exact h.1

/-- A job searches on unless its search begins or ends. -/
theorem Move.searching (h : Move (p, s) (p', s'))
    (hn : ∀ task, p = .job n task → s.stage? n ≠ none) :
    (Searching n p' s' ↔ Searching n p s) ∨ s'.deeds = s.deeds ++ [.search n] ∨
      s'.deeds = s.deeds ++ [.searched n] := by
  by_cases hat : p.isAt n
  · rcases hat with rfl | ⟨task, rfl⟩
    · cases h
      case work busy _ _ => cases busy
      case searchNext => exact .inr (.inl rfl)
      case idle => exact .inl .rfl
      all_goals simp [Searching, Place.rank, Task.rank, Stage.rank, *]
    · obtain ⟨job, hjob⟩ := job_of_stage? (hn task rfl)
      cases h
      case search => exact .inr (.inl rfl)
      case conclude | concludeFault => exact .inr (.inr rfl)
      all_goals
        simp [Searching, Place.rank, Task.rank, Stage.rank, stage?, hjob, wake, did, setJob,
          endJob, Session.watchAttempt, Session.newAttempt, mapCrossing, mapLock, mapCell]
  · rw [Searching, Searching, h.place_eq hat]
    exact .inl .rfl

theorem Move.hunt (h : Move (p, s) (p', s'))
    (hn : ∀ n task, p = .job n task → s.stage? n ≠ none) : Hunt p s p' s' := by
  have hsearching (n : Nat) := h.searching (hn n)
  have hsearched (n : Nat) (hdeed : .searched n ∈ s.deeds) : .searched n ∈ s'.deeds :=
    h.mem_deeds hdeed
  have hothers {n : Nat} (deeds : s'.deeds = s.deeds ++ [.search n] ∨
      s'.deeds = s.deeds ++ [.searched n]) (m : Nat) (hm : m ≠ n) :
      Searching m p' s' ↔ Searching m p s := by
    refine (hsearching m).resolve_right ?_
    rcases deeds with hdeeds | hdeeds <;> simp [hdeeds, hm.symm]
  cases h
  case search n i _ free =>
    exact .start (Lock.held_of_isFree free) rfl (by simp [Searching, Place.rank, Task.rank])
      (hothers (.inl rfl)) rfl
  case searchNext n i _ turn =>
    exact .start (Lock.held_of_admits turn) rfl (by simp [Searching, Place.rank, Task.rank])
      (hothers (.inl rfl)) rfl
  case conclude | concludeFault =>
    exact .stop (by simp [Searching, Place.rank, Task.rank])
      (by simp [Searching, Place.rank, Task.rank]) (hothers (.inr rfl)) rfl
  case strive deed h =>
    have h := Deed.attempt?_of_striver? h
    refine .stay rfl (fun n => (hsearching n).resolve_right ?_) (fun n => ?_) hsearched
    all_goals cases deed <;> simp_all [did, Deed.attempt?]
  all_goals
    refine .stay rfl (fun n => (hsearching n).resolve_right ?_) (fun n => ?_) hsearched
    all_goals
      simp [did, wake, wakeAll, setJob, endJob, setConstruction, endConstruction, newConstruction,
        mapLock, mapCell, releaseRun, mapCrossing, Session.newAttempt, Session.watchAttempt,
        setAttempt, endAttempt, haltOn]

/-- How searches fit together. -/
structure Apart (p : Point) (s : Session) : Prop where
  held {n : Nat} : Searching n p s → s.resolving.held
  unique {m n : Nat} : Searching m p s → Searching n p s → m = n
  begun {n : Nat} : Searching n p s → .search n ∈ s.deeds
  ended {n : Nat} : .search n ∈ s.deeds → .searched n ∈ s.deeds ∨ Searching n p s

theorem Apart.keep (h : Apart p s) (f : Hunt p s p' s') : Apart p' s' := by
  cases f with
  | stay held same search searched =>
    refine ⟨fun hn => ?_, fun hm hn => ?_, fun hn => ?_, fun hdeed => ?_⟩
    · exact held.trans (h.held ((same _).mp hn))
    · exact h.unique ((same _).mp hm) ((same _).mp hn)
    · exact (search _).mpr (h.begun ((same _).mp hn))
    · exact (h.ended ((search _).mp hdeed)).imp (searched _) (same _).mpr
  | @start n free held here others deeds =>
    have hnone {m : Nat} (hm : Searching m p' s') : m = n := by
      refine Classical.byContradiction fun hne => ?_
      have hheld := h.held ((others m hne).mp hm)
      rw [free] at hheld
      cases hheld
    refine ⟨fun _ => held, fun hm hn => (hnone hm).trans (hnone hn).symm, fun hm => ?_,
      fun {m} hdeed => ?_⟩
    · rw [hnone hm, deeds]
      exact List.mem_append_right _ (List.mem_singleton_self _)
    · rw [deeds, List.mem_append] at hdeed ⊢
      by_cases hm : m = n
      · exact .inr (hm ▸ here)
      · have hold := hdeed.resolve_right fun h => hm (by cases List.mem_singleton.mp h; rfl)
        exact (h.ended hold).imp .inl (others m hm).mpr
  | @stop n here ended others deeds =>
    have hnone {m : Nat} (hm : Searching m p' s') : False := by
      by_cases hne : m = n
      · exact ended (hne ▸ hm)
      · exact hne (h.unique ((others m hne).mp hm) here)
    refine ⟨fun hm => (hnone hm).elim, fun hm => (hnone hm).elim, fun hm => (hnone hm).elim,
      fun {m} hdeed => .inl ?_⟩
    rw [deeds, List.mem_append] at hdeed ⊢
    by_cases hm : m = n
    · exact .inr (List.mem_singleton.mpr (hm ▸ rfl))
    · have hold := hdeed.resolve_right fun h => nomatch List.mem_singleton.mp h
      refine .inl ((h.ended hold).resolve_right fun hm' => ?_)
      exact hnone ((others m hm).mpr hm')

theorem Visits.apart (h : Visits rule (fresh settings world cells current) p s) : Apart p s := by
  induction h with
  | start => exact ⟨nofun, nofun, nofun, nofun⟩
  | move h m ih => exact ih.keep (m.hunt fun n task => h.stage?_ne_none)
  | @submit s request _ _ ih =>
    have hsame (n : Nat) : Searching n .rest (s.submit request) ↔ Searching n .rest s := by
      rw [Searching, Searching, rank_submit]
    refine ⟨fun hn => ih.held ((hsame _).mp hn), fun hm hn => ?_, fun hn => ?_, fun hdeed => ?_⟩
    · exact ih.unique ((hsame _).mp hm) ((hsame _).mp hn)
    · exact ih.begun ((hsame _).mp hn)
    · exact (ih.ended hdeed).imp_right (hsame _).mpr
  | pick _ _ _ ih | change _ _ _ _ _ ih | close _ _ _ _ _ _ ih =>
    exact ⟨ih.held, ih.unique, ih.begun, ih.ended⟩

/-- What is done in a search is done by who holds the lock, or is about to take it. -/
theorem Occasion.searching {deed : Deed} (h : Occasion p s deed) (hn : deed.searcher? = some n) :
    deed = .search n ∧ s.resolving.held = false ∨ deed ≠ .search n ∧ Searching n p s := by
  cases h
  case strive h => cases deed <;> simp [Deed.searcher?, Deed.attempt?] at hn h
  case search free =>
    cases hn
    exact .inl ⟨rfl, Lock.held_of_isFree free⟩
  case searchNext _ turn =>
    cases hn
    exact .inl ⟨rfl, Lock.held_of_admits turn⟩
  case probe | request | installed | searched =>
    cases hn
    exact .inr ⟨by simp, by simp [Searching, Place.rank, Task.rank]⟩
  all_goals cases hn

theorem Deed.job?_of_searcher? {deed : Deed} (h : deed.searcher? = some n) :
    deed.job? = some n := by
  cases deed <;> simp_all [searcher?, job?]

/-- While a job searches its search is on record, and the end of it is not. -/
theorem Visits.searching (h : Visits rule (fresh settings world cells current) p s)
    (hn : Searching n p s) : .search n ∈ s.deeds ∧ .searched n ∉ s.deeds := by
  refine ⟨h.apart.begun hn, fun hdeed => ?_⟩
  have hrank := h.rank_le rfl hdeed rfl
  have := Nat.le_trans hrank hn.2
  simp [Deed.rank] at this

/-- When something is done in a search, all searches of others that began before are over. -/
theorem Visits.search_alone (h : Visits rule (fresh settings world cells current) p s)
    {before after : List Deed} {deed : Deed} (hs : s.deeds = before ++ deed :: after)
    (hn : deed.searcher? = some n) (hm : m ≠ n) (hdeed : .search m ∈ before) :
    .searched m ∈ before := by
  obtain ⟨p₁, s₁, hv, ho, rfl, -⟩ := h.occasion rfl hs
  refine (hv.apart.ended hdeed).resolve_right fun hsearching => ?_
  rcases ho.searching hn with ⟨-, hfree⟩ | ⟨-, hhere⟩
  · have hheld := hv.apart.held hsearching
    rw [hfree] at hheld
    cases hheld
  · exact hm (hv.apart.unique hsearching hhere)

/-- A job searches once. All else that it does in its search is done between the begin and the
end. -/
theorem Visits.search_within (h : Visits rule (fresh settings world cells current) p s)
    {before after : List Deed} {deed : Deed} (hs : s.deeds = before ++ deed :: after)
    (hn : deed.searcher? = some n) : .searched n ∉ before ∧
      (deed = .search n ↔ .search n ∉ before) := by
  obtain ⟨p₁, s₁, hv, ho, rfl, -⟩ := h.occasion rfl hs
  rcases ho.searching hn with ⟨rfl, -⟩ | ⟨hne, hhere⟩
  · have hbefore {deed' : Deed} (hdeed' : deed' ∈ s₁.deeds) (hn' : deed'.job? = some n) :
        deed'.rank < 8 := hv.rank_lt rfl ho rfl nofun hdeed' hn'
    refine ⟨fun hdeed => ?_, iff_of_true rfl fun hdeed => ?_⟩
    · exact absurd (hbefore hdeed rfl) (by simp [Deed.rank])
    · exact absurd (hbefore hdeed rfl) (by simp [Deed.rank])
  · obtain ⟨hbegun, hopen⟩ := hv.searching hhere
    exact ⟨hopen, iff_of_false hne fun hnot => hnot hbegun⟩

end Chunkwise.Session
