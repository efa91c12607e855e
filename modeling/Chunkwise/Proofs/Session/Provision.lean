import Chunkwise.Proofs.Session.Orders
import Chunkwise.Proofs.Session.Sought
import Mathlib.Data.List.Forall2

/-!
What the package tool is asked for in a session. Each of its processes is for one search for
packages and gets the distributions of just the packages that this search has found missing; and an
evaluation whose packages are refused ends with a fault that tells of them, and runs no code.
-/
namespace Chunkwise
open Execution World Packages

namespace Session

/-- Nobody but the session asks the package tool for anything; whether it is there and how its
processes go may change at any time. -/
def Rule.equipped : Rule := fun cause s =>
  match cause with
  | .outside world => ∀ tool, s.world.installer = .tool tool →
      ∃ found runs, world.installer = .tool { tool with found := found, runs := runs }
  | .submit _ | .fire _ | .close => True

variable {rule : Rule} {settings : Settings} {world : World} {cells : List Cell}
variable {current : Option Nat} {s s' : Session} {p p' : Point} {n i : Nat}
variable {tool tool' : Tool} {names : List String}

/-! Requests on record. -/

theorem pairwise_scanOf (n : Nat) (s : Session) : (s.scanOf n).roots.Pairwise (· < ·) := by
  unfold scanOf
  split
  · split <;> exact Text.pairwise_sortedSet _
  · exact .nil

/-- A package is probed once in a search. -/
theorem Visits.probe_once (h : Visits rule (fresh settings world cells current) p s)
    {before after : List Deed} {root : String} {answer : Option Bool} {found : Bool}
    (hs : s.deeds = before ++ .probe n root answer :: after) :
    .probe n root (some found) ∉ before := by
  obtain ⟨p₁, s₁, hv, ho, rfl, -⟩ := h.occasion rfl hs
  intro hdeed
  cases ho
  case strive hnone => cases hnone
  case probe i left missing =>
    have hrecords := hv.records (n := n)
    rw [place_job] at hrecords
    have hsorted := pairwise_scanOf n s₁
    rw [← hrecords.1, List.pairwise_append] at hsorted
    have hasked : root ∈ (answers n s₁.deeds).map Prod.fst :=
      List.mem_map_of_mem (mem_answers.mpr hdeed)
    exact String.lt_irrefl _ (hsorted.2.2 root hasked root List.mem_cons_self)

/-- A request for packages is answered once. -/
theorem Visits.installed_unique (h : Visits rule (fresh settings world cells current) p s)
    {names' : List String} {success success' : Bool} (hdeed : .installed n names success ∈ s.deeds)
    (hdeed' : .installed n names' success' ∈ s.deeds) : success = success' := by
  have hsame := h.deed_unique rfl hdeed hdeed' rfl rfl rfl (by simp [Deed.rank])
  injection hsame

theorem Visits.probe_unique (h : Visits rule (fresh settings world cells current) p s)
    {root : String} {found found' : Bool} (hdeed : .probe n root (some found) ∈ s.deeds)
    (hdeed' : .probe n root (some found') ∈ s.deeds) : found = found' := by
  by_contra hne
  obtain ⟨before, after, hs, hbefore⟩ | ⟨before, after, hs, hbefore⟩ :=
    split_of_mem_of_ne hdeed hdeed' fun e => hne (by injection e with _ _ e; injection e)
  · exact h.probe_once hs hbefore
  · exact h.probe_once hs hbefore

/-- The packages of a request: those of the chunk that were found missing, in their order. -/
structure Requested (n : Nat) (names : List String) (s : Session) (before : List Deed) : Prop where
  sorted : (s.scanOf n).roots.Pairwise (· < ·)
  probed : (answers n before).map Prod.fst = (s.scanOf n).roots
  lacking : names = lacking (answers n before)
  nonempty : names ≠ []

theorem Visits.requested (h : Visits rule (fresh settings world cells current) p s)
    {before after : List Deed} {success : Bool}
    (hs : s.deeds = before ++ .installed n names success :: after) :
    Requested n names s before := by
  have hdeed : .installed n names success ∈ s.deeds := hs ▸ by simp
  have hnonempty := (h.request_mem (h.request_of_installed hdeed)).1
  obtain ⟨p₁, s₁, hv, ho, rfl, hlater⟩ := h.occasion rfl hs
  have hscan : s.scanOf n = s₁.scanOf n := hlater.scanOf (ho.request? hv rfl)
  obtain ⟨i, rfl⟩ := ho.installed_at
  have hrecords := hv.records (n := n)
  rw [place_job] at hrecords
  obtain ⟨hall, hmissing, -⟩ := hrecords
  exact ⟨pairwise_scanOf n s, hscan ▸ hall, hmissing, hnonempty⟩

/-- A chunk whose packages were refused does not run. -/
theorem Visits.not_run_of_refused (h : Visits rule (fresh settings world cells current) p s)
    (hdeed : .installed n names false ∈ s.deeds) (i : Nat) : .run n i ∉ s.deeds := by
  intro hrun
  obtain ⟨before, after, hs⟩ := List.append_of_mem hdeed
  obtain ⟨-, hprobed, hlacking, hnonempty⟩ := h.requested hs
  obtain ⟨name, hname⟩ := List.exists_mem_of_ne_nil names hnonempty
  have hmissed : (name, false) ∈ answers n before := mem_lacking.mp (hlacking ▸ hname)
  have hprobe : .probe n name (some false) ∈ s.deeds :=
    hs ▸ List.mem_append_left _ (mem_answers.mp hmissed)
  have hroot : name ∈ (s.scanOf n).roots := hprobed ▸ List.mem_map_of_mem hmissed
  obtain ⟨earlier, later, hs'⟩ := List.append_of_mem hrun
  obtain ⟨deed, hearlier, hsearcher, hobtained⟩ := h.run_resolved hs' name hroot
  have hmem : deed ∈ s.deeds := hs' ▸ List.mem_append_left _ hearlier
  cases deed with
  | probe m root found =>
    obtain rfl := Option.some.inj hsearcher
    obtain _ | _ | _ := found
    · cases hobtained
    · cases hobtained
    · obtain rfl := List.mem_singleton.mp hobtained
      cases h.probe_unique hmem hprobe
  | installed m packages success =>
    obtain rfl := Option.some.inj hsearcher
    cases success
    · cases hobtained
    · cases h.installed_unique hmem hdeed
  | _ => cases hobtained

/-! The tool. -/

/-- The tool is run with this command for a deed: it gets one distribution for each of the packages
that were asked for, as the settings have it. -/
def Deed.Commands (settings : Settings) (python : String) (command : List String) : Deed → Prop
  | .installed _ names _ => ∃ distributions : List String,
      (names.mapM fun root => settings.distribution (.str root)) = .ok (distributions.map .str) ∧
      command = Tool.command python distributions
  | _ => False

/-- What a step has to do with the tool. It starts one process at most and only for a request, and
it looks for the tool when an interpreter is made; if the tool refuses what it is asked for, that is
how the evaluation ends. -/
structure Supplied (settings : Settings) (tool tool' : Tool) (more : List Deed) (s' : Session) :
    Prop where
  aliases : tool'.aliases = tool.aliases
  python : tool'.python = tool.python
  started : tool'.started = tool.started ∨ tool.available ≠ some false ∧
    ∃ command, ∃ deed ∈ more, deed.Commands settings tool.python command ∧
      tool'.started = tool.started ++ [command]
  prepared : ∀ c, .prepare c ∈ more → tool'.available = some tool.found
  unprepared : (∀ c, .prepare c ∉ more) → tool'.available = tool.available
  refused : ∀ n names success, .installed n names success ∈ more → tool.Refuses names →
    success = false ∧ ∃ fault, s'.result? n = some (.error fault) ∧ TellsOf names fault

theorem mapM_distribution (h : tool.aliases = settings.aliases) (names : List String) :
    (names.mapM fun root => settings.distribution (.str root)) =
      .ok (names.map tool.distribution) := by
  simp only [Tool.distribution_eq h]
  exact List.mapM_pure

theorem mem_orders {deed : Deed} {deeds : List Deed} (h : deed.isOrder) :
    deed ∈ orders deeds ↔ deed ∈ deeds := by
  simp [orders, h]

theorem Supplied.of_nothing {more : List Deed} (h : orders more = []) :
    Supplied settings tool tool more s' where
  aliases := rfl
  python := rfl
  started := .inl rfl
  prepared c hc := by simpa [h] using (mem_orders rfl).mpr hc
  unprepared _ := rfl
  refused n names success hn := by simpa [h] using (mem_orders rfl).mpr hn

theorem Supplied.of_prepare {more : List Deed} {c : Nat} (h : orders more = [.prepare c]) :
    Supplied settings tool { tool with available := some tool.found } more s' where
  aliases := rfl
  python := rfl
  started := .inl rfl
  prepared _ _ := rfl
  unprepared hnone := by
    have hc : .prepare c ∈ orders more := h ▸ List.mem_singleton_self _
    exact absurd ((mem_orders rfl).mp hc) (hnone c)
  refused n names success hn := by simpa [h] using (mem_orders rfl).mpr hn

theorem Supplied.of_install {more : List Deed} {success : Bool}
    (haliases : tool.aliases = settings.aliases)
    (h : orders more = [.installed n names success])
    (hrefused : tool.Refuses names →
      success = false ∧ ∃ fault, s'.result? n = some (.error fault) ∧ TellsOf names fault) :
    Supplied settings tool (tool.install names).2.2 more s' := by
  have hmem : .installed n names success ∈ more :=
    (mem_orders rfl).mp (h ▸ List.mem_singleton_self _)
  have hprepare (c : Nat) : .prepare c ∉ more := by
    intro hc
    have hc' : .prepare c ∈ orders more := (mem_orders rfl).mpr hc
    rw [h, List.mem_singleton] at hc'
    cases hc'
  have hrefused' (m : Nat) (names' : List String) (success' : Bool)
      (hm : .installed m names' success' ∈ more) (hrefuses : tool.Refuses names') :
      success' = false ∧ ∃ fault, s'.result? m = some (.error fault) ∧ TellsOf names' fault := by
    have hm' := (mem_orders rfl).mpr hm
    rw [h, List.mem_singleton] at hm'
    cases hm'
    exact hrefused hrefuses
  rcases tool.install_cases names with hsame | ⟨hfound, distributions, hnames, hstarted⟩
  · rw [hsame]
    exact ⟨rfl, rfl, .inl rfl, fun c hc => absurd hc (hprepare c), fun _ => rfl, hrefused'⟩
  · rw [hstarted]
    refine ⟨rfl, rfl, .inr ⟨hfound, _, _, hmem, ⟨distributions, ?_, rfl⟩, rfl⟩,
      fun c hc => absurd hc (hprepare c), fun _ => rfl, hrefused'⟩
    rw [hnames]
    exact mapM_distribution haliases names

/-- What comes of an event for the tool. -/
theorem Ordering.supplied {w : World} {deeds more : List Deed} (o : Ordering w deeds .rest s')
    (htool : w.installer = .tool tool) (haliases : tool.aliases = settings.aliases)
    (hmore : s'.deeds = deeds ++ more) :
    ∃ tool', s'.world.installer = .tool tool' ∧ Supplied settings tool tool' more s' := by
  have horders {l : List Deed} (h : orders s'.deeds = orders deeds ++ l) : orders more = l := by
    rw [hmore, orders_append] at h
    exact List.append_cancel_left h
  cases o with
  | unasked installer orders =>
    exact ⟨tool, installer.trans htool, .of_nothing (horders (by simpa using orders))⟩
  | prepared _ installer orders =>
    exact ⟨_, installer.trans (prepareInstaller_tool htool), .of_prepare (horders orders)⟩
  | @provided n names asked before result _ installer orders =>
    obtain ⟨hinstaller, hresult⟩ := install_tool (before.trans htool) names
    refine ⟨_, installer.trans hinstaller, .of_install haliases (horders orders) fun hrefuses => ?_⟩
    obtain ⟨fault, herror, -⟩ := Tool.install_refused hrefuses
    rw [herror, result] at hresult
    cases hresult
  | @refused n names asked fault before result stands installer orders =>
    obtain ⟨hinstaller, hresult⟩ := install_tool (before.trans htool) names
    refine ⟨_, installer.trans hinstaller, .of_install haliases (horders orders) fun hrefuses => ?_⟩
    obtain ⟨fault', herror, htells⟩ := Tool.install_refused hrefuses
    rw [herror, result] at hresult
    obtain rfl := Option.some.inj hresult
    obtain ⟨_, ⟨⟩⟩ | ⟨⟨⟩⟩ | ⟨-, hended⟩ := stands
    exact ⟨rfl, _, hended, htells⟩

theorem deeds_of_moves (m : Moves (p, s) (p', s')) : ∃ more, s'.deeds = s.deeds ++ more := by
  suffices ∀ x, Moves (p, s) x → ∃ more, x.2.deeds = s.deeds ++ more from this _ m
  intro x m
  induction m with
  | refl => exact ⟨[], (List.append_nil _).symm⟩
  | tail _ m ih =>
    obtain ⟨more, hmore⟩ := ih
    rcases m.deeds with hsame | ⟨deed, -, hnew⟩
    · exact ⟨more, hsame.trans hmore⟩
    · exact ⟨more ++ [deed], by rw [hnew, hmore, List.append_assoc]⟩

/-- What comes of a step for the tool. -/
theorem supplied_step {cause : Cause}
    (hv : Visits .equipped (fresh settings world cells current) .rest s)
    (htool : s.world.installer = .tool tool) (haliases : tool.aliases = settings.aliases)
    (hstep : Step cause s s') (hallowed : Rule.equipped cause s) :
    ∃ tool' more, s'.world.installer = .tool tool' ∧ s'.deeds = s.deeds ++ more ∧
      Supplied settings tool tool' more s' := by
  cases hstep with
  | submit request => exact ⟨tool, [], htool, (List.append_nil _).symm, .of_nothing rfl⟩
  | @fire _ event ready =>
    have hmoves := moves_fire event { s with ready := s.ready.erase event }
    obtain ⟨more, hmore⟩ := deeds_of_moves hmoves
    obtain ⟨tool', htool', hsupplied⟩ :=
      (ordering_of_moves (hv.pick ready trivial) hmoves).supplied htool haliases hmore
    exact ⟨tool', more, htool', hmore, hsupplied⟩
  | close =>
    obtain ⟨world, cells, -, kept, hclose | hclose⟩ := close_eq s
    all_goals
      rw [hclose]
      exact ⟨tool, [], kept.trans htool, (List.append_nil _).symm, .of_nothing rfl⟩
  | outside world =>
    obtain ⟨found, runs, htool'⟩ := hallowed tool htool
    exact ⟨_, [], htool', (List.append_nil _).symm, rfl, rfl, .inl rfl, nofun, fun _ => rfl, nofun⟩

/-- The tool has only been run for what is on record, with the distributions of the settings. -/
structure Accounted (settings : Settings) (python : String) (tool : Tool) (deeds : List Deed) :
    Prop where
  aliases : tool.aliases = settings.aliases
  started : List.SublistForall₂ (fun command deed => deed.Commands settings python command)
    tool.started deeds
  python : tool.python = python

theorem Accounted.supplied {python : String} {deeds more : List Deed}
    (h : Accounted settings python tool deeds) (hsupplied : Supplied settings tool tool' more s') :
    Accounted settings python tool' (deeds ++ more) := by
  obtain ⟨haliases, hstarted, hpython⟩ := h
  refine ⟨hsupplied.aliases.trans haliases, ?_, hsupplied.python.trans hpython⟩
  obtain ⟨asked, hasked, hsublist⟩ := List.sublistForall₂_iff.mp hstarted
  rw [List.sublistForall₂_iff]
  rcases hsupplied.started with hsame | ⟨-, command, deed, hdeed, hcommand, hnew⟩
  · exact ⟨asked, hsame ▸ hasked, hsublist.trans (List.sublist_append_left _ _)⟩
  · refine ⟨asked ++ [deed], ?_, hsublist.append (List.singleton_sublist.mpr hdeed)⟩
    rw [hnew]
    exact List.rel_append hasked (.cons (hpython ▸ hcommand) .nil)

theorem accounted_of_reaches {python : String} {found : Bool} {runs : List ToolRun}
    (hworld : world.installer = (Installer.tool
      { python := python, found := found, runs := runs }).withAliases settings.aliases)
    (h : Reaches .equipped (fresh settings world cells current) s) :
    ∃ tool, s.world.installer = .tool tool ∧ Accounted settings python tool s.deeds := by
  induction h with
  | refl => exact ⟨_, hworld, rfl, .nil, rfl⟩
  | tail h hstep ih =>
    obtain ⟨tool, htool, haccounted⟩ := ih
    obtain ⟨cause, hstep, hallowed⟩ := hstep
    obtain ⟨tool', more, htool', hmore, hsupplied⟩ :=
      supplied_step (visits_of_reaches h) htool haccounted.aliases hstep hallowed
    exact ⟨tool', htool', hmore ▸ haccounted.supplied hsupplied⟩

/-- Evaluations and bootstraps come in any order, the session may be closed, and the package tool
may be there or not and its processes go any way. Each process that was started was started for a
request of its own, and got the distributions that the settings have for just the packages that the
search had found missing among those of its chunk, in increasing order and one for each. As long as
the tool is known to be missing none is started. An evaluation whose packages are refused ends with
a fault that tells of the packages themselves, and its chunk never runs. -/
theorem pip_gets_distributions (settings : Settings) (world : World) (cells : List Cell)
    (current : Option Nat) {python : String} {found : Bool} {runs : List ToolRun}
    (hworld : world.installer = (Installer.tool
      { python := python, found := found, runs := runs }).withAliases settings.aliases)
    (h : Reaches .equipped (fresh settings world cells current) s) :
    ∃ tool, s.world.installer = .tool tool ∧
      List.SublistForall₂ (fun command deed => deed.Commands settings python command)
        tool.started s.deeds ∧
      (∀ before n names success after, s.deeds = before ++ .installed n names success :: after →
        Requested n names s before ∧ (∀ names' success', .installed n names' success' ∉ before) ∧
        (success = false → ∀ i, .run n i ∉ s.deeds)) ∧
      ∀ cause s', Step cause s s' → Rule.equipped cause s → ∃ tool' more,
        s'.world.installer = .tool tool' ∧ s'.deeds = s.deeds ++ more ∧
          Supplied settings tool tool' more s' := by
  obtain ⟨tool, htool, haccounted⟩ := accounted_of_reaches hworld h
  have hv := visits_of_reaches h
  refine ⟨tool, htool, haccounted.started, ?_, fun cause s' => ?_⟩
  · rintro before n names success after hs
    refine ⟨hv.requested hs, (hv.installed_once hs).2, ?_⟩
    rintro rfl
    have hdeed : .installed n names false ∈ s.deeds := hs ▸ by simp
    exact hv.not_run_of_refused hdeed
  · exact supplied_step hv htool haccounted.aliases

theorem pip_refuses_scikit_learn :
    ∃ (world : World) (s : Session) (tool : Tool) (before after : List Deed),
      Reaches .equipped (fresh default world [] none) s ∧ s.world.installer = .tool tool ∧
      tool.started = [["python", "-m", "pip", "install", "numpy", "scikit-learn"]] ∧
      List.SublistForall₂ (fun command deed => deed.Commands default "python" command)
        tool.started s.deeds ∧
      s.deeds = before ++ .installed 0 ["numpy", "sklearn"] false :: after ∧
      Requested 0 ["numpy", "sklearn"] s before ∧ ∀ i, .run 0 i ∉ s.deeds := by
  let tool : Tool := { python := "python", found := true, runs := [.exits 1 [] []] }
  let world : World := { installer := (Installer.tool tool).withAliases (Settings.aliases default) }
  let s := ((fresh default world [] none).serve (.evaluate "import sklearn\nimport numpy")).2
  have hs : Reaches .equipped (fresh default world [] none) s :=
    reaches_serve .refl trivial fun _ _ => trivial
  obtain ⟨tool, htool, hstarted, hrequests, -⟩ :=
    pip_gets_distributions default world [] none rfl hs
  have hcommands : s.world.installer.started =
      [["python", "-m", "pip", "install", "numpy", "scikit-learn"]] := by
    decide +kernel
  rw [htool] at hcommands
  have hany : (s.deeds.any fun deed => deed.isOrder && deed.searcher? == some 0 &&
      deed.sought == ["numpy", "sklearn"] && deed.provided? == none) = true := by
    decide +kernel
  obtain ⟨deed, hdeed, hmatch⟩ := List.any_eq_true.mp hany
  cases deed with
  | installed n names success =>
    obtain ⟨⟨rfl, rfl⟩, hnot⟩ : (n = 0 ∧ names = ["numpy", "sklearn"]) ∧ success = false := by
      cases success <;> simp_all [Deed.isOrder, Deed.searcher?, Deed.sought, Deed.provided?]
    subst hnot
    obtain ⟨before, after, hdeeds⟩ := List.append_of_mem hdeed
    obtain ⟨hrequested, -, hrun⟩ := hrequests before 0 _ false after hdeeds
    exact ⟨world, s, tool, before, after, hs, htool, hcommands, hstarted, hdeeds, hrequested,
      hrun rfl⟩
  | _ => simp [Deed.isOrder, Deed.searcher?] at hmatch

end Session

end Chunkwise
