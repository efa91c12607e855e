import Chunkwise.Proofs.Session.Searches

/-!
What a search finds and asks for. It asks once at most, for just what it found missing; and as long
as what was found or installed is not found missing later, nothing is installed twice.
-/
namespace Chunkwise.Session
open Chunkwise.Execution

variable {rule : Rule} {settings : Settings} {world : World} {cells : List Cell}
variable {current : Option Nat} {s s' : Session} {p p' : Point} {m n i : Nat}

namespace Deed

/-- The answer to a probe in the search of a job. -/
def answer? (n : Nat) : Deed → Option (String × Bool)
  | .probe m root (some answer) => if m = n then some (root, answer) else none
  | _ => none

/-- The packages that are there from then on: those found, and those of a request that was met. -/
def obtained : Deed → List String
  | .probe _ root (some true) => [root]
  | .installed _ packages true => packages
  | _ => []

/-- The package that was not found. -/
def missed : Deed → List String
  | .probe _ root (some false) => [root]
  | _ => []

/-- The packages of a request that was met. -/
def provided? : Deed → Option (List String)
  | .installed _ packages true => some packages
  | _ => none

theorem searcher?_of_answer? {deed : Deed} {answer : String × Bool}
    (h : deed.answer? n = some answer) : deed.searcher? = some n := by
  cases deed with
  | probe m root found => cases found <;> simp_all [answer?, searcher?]
  | _ => cases h

end Deed

/-- The answers to the probes of a job, in order. -/
def answers (n : Nat) (deeds : List Deed) : List (String × Bool) :=
  deeds.filterMap (Deed.answer? n)

/-- The packages that were found missing. -/
def lacking (answers : List (String × Bool)) : List String :=
  (answers.filter fun answer => !answer.2).map Prod.fst

/-- A job has found all of its packages or had them installed. -/
def Resolved (n : Nat) (roots : List String) (deeds : List Deed) : Prop :=
  ∀ root ∈ roots, ∃ deed ∈ deeds, deed.searcher? = some n ∧ root ∈ deed.obtained

/-- What was found or installed is not found missing later. -/
def Lasting (deeds : List Deed) : Prop :=
  deeds.Pairwise fun earlier later => ∀ name ∈ later.missed, name ∉ earlier.obtained

instance (deeds : List Deed) : Decidable (Lasting deeds) :=
  inferInstanceAs (Decidable (List.Pairwise _ _))

theorem pairwise_iff_split {α : Type} {R : α → α → Prop} {l : List α} :
    l.Pairwise R ↔ ∀ before x after, l = before ++ x :: after → ∀ y ∈ before, R y x := by
  refine ⟨?_, fun h => List.pairwise_iff_getElem.mpr fun i j hi hj hij => ?_⟩
  · rintro h before x after rfl y hy
    exact (List.pairwise_append.mp h).2.2 y hy x List.mem_cons_self
  · exact h (l.take j) l[j] (l.drop (j + 1)) (by simp) _
      (List.mem_take_iff_getElem.mpr ⟨i, by omega, rfl⟩)

/-- How the record of a search goes with the place of its job. -/
def Place.Records (n : Nat) (roots : List String) (deeds : List Deed) : Place → Prop
  | .working (.search _ left missing) =>
    (answers n deeds).map Prod.fst ++ left = roots ∧ missing = lacking (answers n deeds)
  | .working (.install _ missing) | .waiting (some (.installing _ missing _)) =>
    (answers n deeds).map Prod.fst = roots ∧ missing = lacking (answers n deeds) ∧
      .request n missing ∈ deeds
  | .working (.conclude _ none) | .working (.execute _) | .waiting (some (.queuedToRun _)) =>
    Resolved n roots deeds
  | _ => True

theorem Resolved.mono {roots : List String} {deeds later : List Deed} (h : Resolved n roots deeds) :
    Resolved n roots (deeds ++ later) := fun root hroot =>
  have ⟨deed, hdeed, hobtained⟩ := h root hroot
  ⟨deed, List.mem_append_left _ hdeed, hobtained⟩

theorem mem_lacking {answers : List (String × Bool)} {root : String} :
    root ∈ lacking answers ↔ (root, false) ∈ answers := by
  simp [lacking]

theorem mem_answers {deeds : List Deed} {root : String} {answer : Bool} :
    (root, answer) ∈ answers n deeds ↔ .probe n root (some answer) ∈ deeds := by
  rw [answers, List.mem_filterMap]
  constructor
  · rintro ⟨deed, hdeed, hanswer⟩
    cases deed with
    | probe m root' found => cases found <;> simp_all [Deed.answer?]
    | _ => cases hanswer
  · exact fun h => ⟨_, h, by simp [Deed.answer?]⟩

theorem answers_append_probe (deeds : List Deed) (root : String) (answer : Bool) :
    answers n (deeds ++ [.probe n root (some answer)]) = answers n deeds ++ [(root, answer)] := by
  simp [answers, Deed.answer?]

/-- When nothing is missing a job has found all of its packages. -/
theorem resolved_of_found {roots : List String} {deeds : List Deed}
    (hall : (answers n deeds).map Prod.fst = roots) (hnone : lacking (answers n deeds) = []) :
    Resolved n roots deeds := by
  intro root hroot
  obtain ⟨⟨root, answer⟩, hanswer, rfl⟩ := List.mem_map.mp (hall ▸ hroot)
  cases answer with
  | true => exact ⟨_, mem_answers.mp hanswer, rfl, List.mem_singleton_self _⟩
  | false =>
    have hmissing := mem_lacking.mpr hanswer
    rw [hnone] at hmissing
    cases hmissing

/-- When what is missing has been installed a job has all of its packages. -/
theorem resolved_of_installed {roots : List String} {deeds : List Deed}
    (hall : (answers n deeds).map Prod.fst = roots) :
    Resolved n roots (deeds ++ [.installed n (lacking (answers n deeds)) true]) := by
  intro root hroot
  obtain ⟨⟨root, answer⟩, hanswer, rfl⟩ := List.mem_map.mp (hall ▸ hroot)
  cases answer with
  | true =>
    refine ⟨_, List.mem_append_left _ (mem_answers.mp hanswer), rfl, List.mem_singleton_self _⟩
  | false =>
    refine ⟨_, List.mem_append_right _ (List.mem_singleton_self _), rfl, ?_⟩
    exact mem_lacking.mpr hanswer

theorem Place.Records.grow {x : Place} {roots : List String} {deeds : List Deed} {deed : Deed}
    (h : x.Records n roots deeds) (hdeed : deed.answer? n = none) :
    x.Records n roots (deeds ++ [deed]) := by
  have hanswers : answers n (deeds ++ [deed]) = answers n deeds := by simp [answers, hdeed]
  revert h
  unfold Place.Records
  split
  · rw [hanswers]
    exact id
  · rw [hanswers]
    exact fun ⟨hall, hmissing, hrequest⟩ => ⟨hall, hmissing, List.mem_append_left _ hrequest⟩
  · rw [hanswers]
    exact fun ⟨hall, hmissing, hrequest⟩ => ⟨hall, hmissing, List.mem_append_left _ hrequest⟩
  · exact Resolved.mono
  · exact Resolved.mono
  · exact Resolved.mono
  · exact id

/-- A job that has not begun to search has probed nothing. -/
theorem Visits.answers_eq_nil (h : Visits rule (fresh settings world cells current) p s)
    (hrank : (place n p s).rank < 8) : answers n s.deeds = [] := by
  refine List.filterMap_eq_nil_iff.mpr fun deed hdeed => ?_
  cases deed with
  | probe m root found =>
    by_cases hm : m = n
    · subst hm
      have hle := h.rank_le rfl hdeed rfl
      exact absurd (Nat.lt_of_le_of_lt hle hrank) (by simp [Deed.rank])
    · cases found <;> simp [Deed.answer?, hm]
  | _ => rfl

theorem Place.Records.move_other {roots : List String} (h : (place n p s).Records n roots s.deeds)
    (m : Move (p, s) (p', s')) (hat : ¬p.isAt n) : (place n p' s').Records n roots s'.deeds := by
  rw [m.place_eq hat]
  rcases m.deeds with hsame | ⟨deed, ho, hnew⟩
  · exact hsame ▸ h
  · rw [hnew]
    refine h.grow (Option.eq_none_iff_forall_ne_some.mpr fun answer hanswer => hat ?_)
    exact ho.isAt (Deed.job?_of_searcher? (Deed.searcher?_of_answer? hanswer))

theorem Place.Records.move_picked {roots : List String} (hroots : (s.scanOf n).roots = roots)
    (h : (place n (.picked (.job n)) s).Records n roots s.deeds)
    (m : Move (.picked (.job n), s) (p', s'))
    (hnone : (place n (.picked (.job n)) s).rank < 8 → answers n s.deeds = []) :
    (place n p' s').Records n roots s'.deeds := by
  rw [place_picked] at h hnone
  cases m
  case work busy _ _ => cases busy
  case idle => exact h
  case searchNext i hstage _ =>
    have hfirst := hnone (by simp [hstage, Place.rank, Stage.rank])
    have hanswers : answers n (s.deeds ++ [.search n]) = [] := by
      simpa [answers, Deed.answer?] using hfirst
    rw [place_job]
    simp only [Place.Records, did, hanswers]
    exact ⟨hroots, rfl⟩
  case installOn hstage =>
    rw [hstage] at h
    rw [place_job]
    exact h
  all_goals
    rw [place_job]
    trivial

theorem Place.Records.move_job {task : Task} {roots : List String}
    (hroots : (s.scanOf n).roots = roots)
    (h : (place n (.job n task) s).Records n roots s.deeds)
    (m : Move (.job n task, s) (p', s')) (hn : s.stage? n ≠ none)
    (hnone : (place n (.job n task) s).rank < 8 → answers n s.deeds = []) :
    (place n p' s').Records n roots s'.deeds := by
  have hstage (stage : Stage) (hat : place n p' s' = .waiting (some stage))
      (hrecords : (Place.waiting (some stage)).Records n roots s'.deeds) :
      (place n p' s').Records n roots s'.deeds := hat ▸ hrecords
  rw [place_job] at h hnone
  cases m
  case work => rw [place_job]; exact h
  case resolveNone hempty =>
    rw [place_job]
    rw [hroots] at hempty
    exact fun root hroot => absurd (hempty ▸ hroot) List.not_mem_nil
  case search =>
    have hanswers : answers n (s.deeds ++ [.search n]) = [] := by
      simpa [answers, Deed.answer?] using hnone (by simp [Place.rank, Task.rank])
    rw [place_job]
    simp only [Place.Records, did, hanswers]
    exact ⟨hroots, rfl⟩
  case probe root left missing answer _ _ _ _ _ _ _ =>
    obtain ⟨hsplit, rfl⟩ := h
    rw [place_job]
    simp only [Place.Records, did, answers_append_probe]
    refine ⟨by simpa using hsplit, ?_⟩
    cases answer <;> simp [lacking]
  case foundAll =>
    obtain ⟨hall, hmissing⟩ := h
    rw [place_job]
    exact resolved_of_found (by simpa using hall) hmissing.symm
  case request i missing _ =>
    obtain ⟨hall, hmissing⟩ := h
    have hanswers : answers n (s.deeds ++ [.request n missing]) = answers n s.deeds := by
      simp [answers, Deed.answer?]
    rw [place_job]
    simp only [Place.Records, did, hanswers]
    exact ⟨by simpa using hall, hmissing, List.mem_append_right _ (List.mem_singleton_self _)⟩
  case installed =>
    obtain ⟨hall, rfl, -⟩ := h
    rw [place_job]
    exact resolved_of_installed hall
  case conclude =>
    rw [place_job]
    exact Resolved.mono h
  case installLater i missing turns => exact hstage _ (place_setJob hn (.installing i missing turns)) h
  case queueChunk i _ => exact hstage _ (place_setJob hn (.queuedToRun i)) h
  case watch c _ => exact hstage _ (place_setJob hn (.awaitingInterpreter c)) trivial
  case watchAttempt i a _ _ => exact hstage _ (place_setJob hn (.awaitingBridge i a)) trivial
  case newAttempt i _ _ =>
    exact hstage _ (place_setJob hn (.awaitingBridge i s.attempts.length)) trivial
  case queueSearch i _ _ => exact hstage _ (place_setJob hn (.queuedToResolve i)) trivial
  case executeLater i resume _ => exact hstage _ (place_setJob hn (.running i resume)) trivial
  case stick => exact hstage _ (place_setJob hn .stuck) trivial
  case finish result => exact hstage _ (place_setJob hn (.ended result)) trivial
  all_goals
    rw [place_job]
    trivial

theorem Visits.records (h : Visits rule (fresh settings world cells current) p s) :
    (place n p s).Records n (s.scanOf n).roots s.deeds := by
  induction h with
  | start => trivial
  | @move p p' s s' h m ih =>
    rw [m.scanOf_eq]
    by_cases hat : p.isAt n
    · rcases hat with rfl | ⟨task, rfl⟩
      · exact ih.move_picked rfl m h.answers_eq_nil
      · exact ih.move_job rfl m (h.stage?_ne_none rfl) h.answers_eq_nil
    · exact ih.move_other m hat
  | submit request _ _ ih =>
    rw [place_rest, stage?_submit]
    split
    next => trivial
    next hn =>
      rw [scanOf_submit request _ hn]
      exact ih
  | pick _ _ _ ih | change _ _ _ _ _ ih | close _ _ _ _ _ _ ih => exact ih

/-! What is obtained. -/

theorem Lasting.before {before after : List Deed} (h : Lasting (before ++ after)) :
    Lasting before :=
  (List.pairwise_append.mp h).1

theorem Deed.searcher?_of_obtained {deed : Deed} {name : String} (h : name ∈ deed.obtained) :
    ∃ m, deed.searcher? = some m := by
  cases deed with
  | probe m root answer => exact ⟨m, rfl⟩
  | installed m packages success => exact ⟨m, rfl⟩
  | _ => cases h

/-- What a job finds missing nobody else has found or had installed, as long as the job searches:
not before, since it would have been found, and not since then, because nobody else searches. -/
theorem Visits.not_obtained (h : Visits rule (fresh settings world cells current) p s)
    (hn : Searching n p s) (hlasting : Lasting s.deeds) {name : String}
    (hprobe : .probe n name (some false) ∈ s.deeds) {deed : Deed} (hdeed : deed ∈ s.deeds)
    (hother : deed.searcher? ≠ some n) : name ∉ deed.obtained := by
  intro hobtained
  obtain ⟨m, hm⟩ := Deed.searcher?_of_obtained hobtained
  have hne : n ≠ m := fun e => hother (e ▸ hm)
  obtain ⟨before, after, hsplit⟩ := List.append_of_mem hprobe
  have hbegun : .search n ∈ before := by
    have hwithin := (h.search_within hsplit rfl).2
    exact Classical.byContradiction fun hnot => nomatch hwithin.mpr hnot
  rw [hsplit, List.mem_append, List.mem_cons] at hdeed
  rcases hdeed with hbefore | rfl | hafter
  · have hkept := pairwise_iff_split.mp hlasting before _ after hsplit deed hbefore
    exact hkept name (List.mem_singleton_self _) hobtained
  · exact hother rfl
  · obtain ⟨first, rest, rfl⟩ := List.append_of_mem hafter
    have hsplit' : s.deeds = (before ++ .probe n name (some false) :: first) ++ deed :: rest := by
      rw [hsplit, List.append_assoc, List.cons_append]
    have hover := h.search_alone hsplit' hm hne (List.mem_append_left _ hbegun)
    exact (h.searching hn).2 (hsplit' ▸ List.mem_append_left _ hover)

theorem Occasion.request_at {names : List String} (h : Occasion p s (.request n names)) :
    ∃ i, p = .job n (.search i [] names) ∧ names ≠ [] := by
  cases h
  case strive h => cases h
  case request h => exact ⟨_, rfl, h⟩

theorem Occasion.installed_at {names : List String} {success : Bool}
    (h : Occasion p s (.installed n names success)) : ∃ i, p = .job n (.install i names) := by
  cases h
  case strive h => cases h
  case installed => exact ⟨_, rfl⟩

theorem Visits.request_records (h : Visits rule (fresh settings world cells current) p s)
    {names : List String} (ho : Occasion p s (.request n names)) : Searching n p s ∧ names ≠ [] ∧
      (answers n s.deeds).map Prod.fst = (s.scanOf n).roots ∧ names = lacking (answers n s.deeds) := by
  obtain ⟨i, rfl, hne⟩ := ho.request_at
  have hrecords := h.records (n := n)
  rw [place_job] at hrecords
  obtain ⟨hall, hmissing⟩ := hrecords
  exact ⟨by simp [Searching, Place.rank, Task.rank], hne, by simpa using hall, hmissing⟩

theorem Visits.installed_records (h : Visits rule (fresh settings world cells current) p s)
    {names : List String} {success : Bool} (ho : Occasion p s (.installed n names success)) :
    Searching n p s ∧ .request n names ∈ s.deeds ∧ names = lacking (answers n s.deeds) := by
  obtain ⟨i, rfl⟩ := ho.installed_at
  have hrecords := h.records (n := n)
  rw [place_job] at hrecords
  obtain ⟨-, hmissing, hrequest⟩ := hrecords
  exact ⟨by simp [Searching, Place.rank, Task.rank], hrequest, hmissing⟩

theorem Visits.run_records (h : Visits rule (fresh settings world cells current) p s)
    (ho : Occasion p s (.run n i)) : Resolved n (s.scanOf n).roots s.deeds := by
  have hrecords := h.records (n := n)
  rcases ho.run_place with hplace | hplace <;> rw [hplace] at hrecords <;> exact hrecords

/-- A job asks for packages once, and for just those of its chunk that it has found missing. -/
theorem Visits.request_once (h : Visits rule (fresh settings world cells current) p s)
    {before after : List Deed} {names : List String}
    (hs : s.deeds = before ++ .request n names :: after) :
    (∀ names', .request n names' ∉ before) ∧ names ≠ [] ∧
      (answers n before).map Prod.fst = (s.scanOf n).roots ∧ names = lacking (answers n before) := by
  obtain ⟨p₁, s₁, hv, ho, rfl, hlater⟩ := h.occasion rfl hs
  obtain ⟨-, hne, hall, hmissing⟩ := hv.request_records ho
  refine ⟨fun names' hdeed => ?_, hne, ?_, hmissing⟩
  · exact absurd (hv.rank_lt rfl ho rfl nofun hdeed rfl) (Nat.lt_irrefl _)
  · rw [hlater.scanOf (ho.request? hv rfl)]
    exact hall

/-- An answer of the installer is one to a request on record, and the only one. -/
theorem Visits.installed_once (h : Visits rule (fresh settings world cells current) p s)
    {before after : List Deed} {names : List String} {success : Bool}
    (hs : s.deeds = before ++ .installed n names success :: after) :
    .request n names ∈ before ∧ ∀ names' success', .installed n names' success' ∉ before := by
  obtain ⟨p₁, s₁, hv, ho, rfl, -⟩ := h.occasion rfl hs
  refine ⟨(hv.installed_records ho).2.1, fun names' success' hdeed => ?_⟩
  exact absurd (hv.rank_lt rfl ho rfl nofun hdeed rfl) (Nat.lt_irrefl _)

/-- A chunk runs when its packages are there. -/
theorem Visits.run_resolved (h : Visits rule (fresh settings world cells current) p s)
    {before after : List Deed} (hs : s.deeds = before ++ .run n i :: after) :
    Resolved n (s.scanOf n).roots before := by
  obtain ⟨p₁, s₁, hv, ho, rfl, hlater⟩ := h.occasion rfl hs
  rw [hlater.scanOf (ho.request? hv rfl)]
  exact hv.run_records ho

/-- Nothing is asked for that someone else has found or had installed. -/
theorem Visits.request_new (h : Visits rule (fresh settings world cells current) p s)
    (hlasting : Lasting s.deeds) {before after : List Deed} {names : List String}
    (hs : s.deeds = before ++ .request n names :: after) {deed : Deed} (hdeed : deed ∈ before)
    (hother : deed.searcher? ≠ some n) {name : String} (hname : name ∈ names) :
    name ∉ deed.obtained := by
  obtain ⟨p₁, s₁, hv, ho, rfl, -⟩ := h.occasion rfl hs
  obtain ⟨hsearching, -, -, hmissing⟩ := hv.request_records ho
  rw [hs] at hlasting
  have hprobe := mem_answers.mp (mem_lacking.mp (hmissing ▸ hname))
  exact hv.not_obtained hsearching hlasting.before hprobe hdeed hother

/-- A chunk that was resolved before asks for nothing. -/
theorem Visits.request_again (h : Visits rule (fresh settings world cells current) p s)
    (hlasting : Lasting s.deeds) {before after : List Deed} {names : List String}
    (hs : s.deeds = before ++ .request n names :: after) (hm : m ≠ n)
    (hsame : s.request? m = s.request? n) : ¬Resolved m (s.scanOf m).roots before := by
  intro hresolved
  obtain ⟨-, hne, hall, hmissing⟩ := h.request_once hs
  obtain ⟨name, hname⟩ := List.exists_mem_of_ne_nil names hne
  have hroot : name ∈ (s.scanOf m).roots := by
    have hscan : s.scanOf m = s.scanOf n := by rw [Session.scanOf, hsame, Session.scanOf]
    rw [hscan, ← hall]
    exact List.mem_map_of_mem (mem_lacking.mp (hmissing ▸ hname))
  obtain ⟨deed, hdeed, hsearcher, hobtained⟩ := hresolved name hroot
  have hother : deed.searcher? ≠ some n := fun e => hm (Option.some.inj (hsearcher.symm.trans e))
  exact h.request_new hlasting hs hdeed hother hname hobtained

/-- What a request has met was in no request that had been met before. -/
theorem Visits.provided_new (h : Visits rule (fresh settings world cells current) p s)
    (hlasting : Lasting s.deeds) {before after : List Deed} {names names' : List String}
    (hs : s.deeds = before ++ .installed n names true :: after)
    (hdeed : .installed m names' true ∈ before) : ∀ name ∈ names', name ∉ names := by
  intro name hname' hname
  have hne : m ≠ n := by
    rintro rfl
    exact (h.installed_once hs).2 names' true hdeed
  obtain ⟨p₁, s₁, hv, ho, rfl, -⟩ := h.occasion rfl hs
  obtain ⟨hsearching, -, hmissing⟩ := hv.installed_records ho
  rw [hs] at hlasting
  have hprobe := mem_answers.mp (mem_lacking.mp (hmissing ▸ hname))
  have hother : (Deed.installed m names' true).searcher? ≠ some n :=
    fun e => hne (Option.some.inj e)
  exact hv.not_obtained hsearching hlasting.before hprobe hdeed hother hname'

/-- No package is in two requests that were met. -/
theorem Visits.provided_disjoint (h : Visits rule (fresh settings world cells current) p s)
    (hlasting : Lasting s.deeds) : (s.deeds.filterMap Deed.provided?).Pairwise
      fun names names' => ∀ name ∈ names, name ∉ names' := by
  have hprovided {deed : Deed} {names : List String} (hnames : deed.provided? = some names) :
      ∃ n, deed = .installed n names true := by
    cases deed with
    | installed n packages success => cases success <;> simp_all [Deed.provided?]
    | _ => cases hnames
  rw [List.pairwise_filterMap, pairwise_iff_split]
  intro before deed after hs deed' hdeed' names' hnames' names hnames
  obtain ⟨n, rfl⟩ := hprovided hnames
  obtain ⟨m, rfl⟩ := hprovided hnames'
  exact h.provided_new hlasting hs hdeed'

/-- Evaluations come and the session is closed in any order. Searches for packages never overlap:
what is done in one is done after its begin and before its end, and at that time all others that
began before are over. A search asks for packages once at most, for just those of its chunk that it
has found missing, and a chunk runs when each of its packages has been found or installed. As long
as nothing that was found or installed is found missing later, no package is in two requests that
were met, nothing is asked for that another job has found or had installed, and a chunk that was
resolved before asks for nothing. -/
theorem serialized_resolution (settings : Settings) (world : World) (cells : List Cell)
    (current : Option Nat) (h : Reaches .anything (fresh settings world cells current) s) :
    (∀ before deed after n, s.deeds = before ++ deed :: after → deed.searcher? = some n →
      (∀ m, m ≠ n → .search m ∈ before → .searched m ∈ before) ∧
      .searched n ∉ before ∧ (deed = .search n ↔ .search n ∉ before)) ∧
    (∀ before n names after, s.deeds = before ++ .request n names :: after →
      (∀ names', .request n names' ∉ before) ∧ names ≠ [] ∧
      (answers n before).map Prod.fst = (s.scanOf n).roots ∧ names = lacking (answers n before)) ∧
    (∀ before n names success after, s.deeds = before ++ .installed n names success :: after →
      .request n names ∈ before ∧ ∀ names' success', .installed n names' success' ∉ before) ∧
    (∀ before n i after, s.deeds = before ++ .run n i :: after →
      Resolved n (s.scanOf n).roots before) ∧
    (Lasting s.deeds →
      ((s.deeds.filterMap Deed.provided?).Pairwise
        fun names names' => ∀ name ∈ names, name ∉ names') ∧
      ∀ before n names after, s.deeds = before ++ .request n names :: after →
        (∀ deed ∈ before, deed.searcher? ≠ some n → ∀ name ∈ names, name ∉ deed.obtained) ∧
        ∀ m, m ≠ n → s.request? m = s.request? n → ¬Resolved m (s.scanOf m).roots before) := by
  have hv := visits_of_reaches h
  refine ⟨fun before deed after n hs hn => ⟨fun m hm => hv.search_alone hs hn hm,
    hv.search_within hs hn⟩, fun before n names after => hv.request_once,
    fun before n names success after => hv.installed_once,
    fun before n i after => hv.run_resolved, fun hlasting => ⟨hv.provided_disjoint hlasting,
      fun before n names after hs => ⟨fun deed hdeed hother name hname => ?_, fun m hm => ?_⟩⟩⟩
  · exact hv.request_new hlasting hs hdeed hother hname
  · exact hv.request_again hlasting hs hm

theorem installs_of_two_chunks :
    ∃ s, Reaches .anything (fresh default { installer := .scripted {} } [] none) s ∧
      Lasting s.deeds ∧ s.deeds.filterMap Deed.provided? = [["foo"], ["bar"]] ∧
      (s.deeds.filterMap Deed.provided?).Pairwise
        fun names names' => ∀ name ∈ names, name ∉ names' := by
  let world : World := { installer := .scripted {} }
  let s := (((fresh default world [] none).serve (.evaluate "import foo")).2.serve
    (.evaluate "import bar, foo")).2
  have hs : Reaches .anything (fresh default world [] none) s :=
    reaches_serve (reaches_serve .refl trivial fun _ _ => trivial) trivial fun _ _ => trivial
  have hlasting : Lasting s.deeds := by decide +kernel
  have hprovided : s.deeds.filterMap Deed.provided? = [["foo"], ["bar"]] := by decide +kernel
  obtain ⟨-, -, -, -, hdisjoint⟩ := serialized_resolution default world [] none hs
  exact ⟨s, hs, hlasting, hprovided, (hdisjoint hlasting).1⟩

/-! Worlds in which packages stay. If all that was found or installed can be imported whenever an event
is taken up, no probe finds it missing: between the beginning of an event and its probes no code
runs but that of the modules that are probed, and probes take no module away. -/

/-- All that was found or installed can be imported. -/
def Keeps (s : Session) : Prop :=
  ∀ deed ∈ s.deeds, ∀ name ∈ deed.obtained, s.world.canImport name

/-- No event is taken up when something that was found or installed cannot be imported. -/
def Rule.keeping : Rule := fun cause s =>
  match cause with
  | .fire _ => s.Keeps
  | .submit _ | .close | .outside _ => True

/-- No code has run yet in the event but that of modules that were probed. -/
def Point.isCalm : Point → Bool
  | .picked _ => true
  | .job _ task => task.rank ≤ 8
  | _ => false

theorem Keeps.did {deed : Deed} (h : s.Keeps) (hdeed : deed.obtained = []) :
    (s.did deed).Keeps := by
  intro deed' hdeed' name hname
  rcases List.mem_append.mp hdeed' with hold | hnew
  · exact h deed' hold name hname
  · rw [List.mem_singleton.mp hnew, hdeed] at hname
    cases hname

/-- A probe keeps what can be imported, and what it finds can be imported from then on. -/
theorem Keeps.probe {n : Nat} {root : String} {answer : Bool} (h : s.Keeps) (world : World)
    (cells : List Cell) (keeps : ∀ name, s.world.canImport name → world.canImport name)
    (loads : answer → world.canImport root) :
    ({ s with world := world, cells := cells }.did (.probe n root (some answer))).Keeps := by
  intro deed hdeed name hname
  rcases List.mem_append.mp hdeed with hold | hnew
  · exact keeps name (h deed hold name hname)
  · rw [List.mem_singleton.mp hnew] at hname
    cases answer with
    | true => exact List.mem_singleton.mp hname ▸ loads rfl
    | false => cases hname

theorem Point.isBusy_eq_false (h : p.isCalm) : p.isBusy = false := by
  rcases p with _ | _ | _ | _ | _ | _ | ⟨_, task⟩
  case job => cases task <;> first | rfl | simp [isCalm, Task.rank] at h
  all_goals first | rfl | cases h

theorem Move.keeps (m : Move (p, s) (p', s')) (h : p.isCalm → s.Keeps) (hcalm : p'.isCalm) :
    s'.Keeps := by
  cases m
  case work busy _ _ =>
    rw [Point.isBusy_eq_false hcalm] at busy
    cases busy
  case probe loads _ keeps _ _ => exact (h rfl).probe _ _ keeps loads
  all_goals first
    | exact h rfl
    | exact Keeps.did (h rfl) rfl
    | simp [Point.isCalm, Task.rank] at hcalm

theorem Visits.keeps (h : Visits .keeping (fresh settings world cells current) p s)
    (hcalm : p.isCalm) : s.Keeps := by
  induction h with
  | move _ m ih => exact m.keeps ih hcalm
  | pick _ _ allowed => exact allowed
  | _ => cases hcalm

theorem Deed.probe_of_missed {deed : Deed} {name : String} (h : name ∈ deed.missed) :
    ∃ n, deed = .probe n name (some false) := by
  cases deed with
  | probe n root answer =>
    rcases answer with _ | _ | _
    · cases h
    · exact ⟨n, by rw [List.mem_singleton.mp h]⟩
    · cases h
  | _ => cases h

/-- What is found missing was neither found nor installed before. -/
theorem Move.found_missing {later : Deed} {name : String} (m : Move (p, s) (p', s'))
    (hs : p.isCalm → s.Keeps) (hnew : s'.deeds = s.deeds ++ [later]) (hname : name ∈ later.missed) :
    ∀ deed ∈ s.deeds, name ∉ deed.obtained := by
  intro deed hdeed hobtained
  obtain ⟨n, rfl⟩ := Deed.probe_of_missed hname
  cases m.occasion hnew
  case strive ho => cases ho
  case probe =>
    cases m
    case work busy _ _ => cases busy
    case abandon => simp [did] at hnew
    case probe answer _ _ _ _ _ _ finds =>
      obtain rfl : answer = false := by simpa [did] using hnew
      cases finds (hs rfl deed hdeed name hobtained)

/-- Where all that was found or installed can be imported when an event is taken up, nothing of it
is found missing later. -/
theorem lasting_of_keeping (h : Reaches .keeping (fresh settings world cells current) s) :
    Lasting s.deeds := by
  refine pairwise_iff_split.mpr fun before later after hs earlier hearlier name hname => ?_
  obtain ⟨p₁, s₁, p₂, s₂, hv, m, rfl, hnew, -⟩ := (visits_of_reaches h).moment rfl hs
  exact m.found_missing hv.keeps hnew hname earlier hearlier

end Chunkwise.Session
