import Chunkwise.Proofs.Import.Exempt
import Chunkwise.Proofs.Session.Installs

/-!
What is looked for and what is asked of the installer. Every name comes from a line of the chunk that
the search is for, and is neither the heavy library nor a module beside the chunk's own.
-/
namespace Chunkwise.Session
open Chunkwise.Execution Chunkwise.Import Chunkwise.Text

variable {rule : Rule} {settings : Settings} {world : World} {cells : List Cell}
variable {current : Option Nat} {s : Session} {p : Point} {n : Nat} {name : String}

/-- The names that are probed or asked for. -/
def Deed.sought : Deed → List String
  | .probe _ root _ => [root]
  | .request _ packages | .installed _ packages _ => packages
  | _ => []

theorem Visits.probe_mem (h : Visits rule (fresh settings world cells current) p s)
    {answer : Option Bool} (hdeed : .probe n name answer ∈ s.deeds) : name ∈ (s.scanOf n).roots := by
  obtain ⟨before, after, hs⟩ := List.append_of_mem hdeed
  obtain ⟨p₁, s₁, hv, ho, -, hlater⟩ := h.occasion rfl hs
  rw [hlater.scanOf (ho.request? hv rfl)]
  cases ho
  case strive hnone => cases hnone
  case probe =>
    have hrecords := hv.records (n := n)
    rw [place_job] at hrecords
    rw [← hrecords.1]
    exact List.mem_append_right _ List.mem_cons_self

theorem Visits.request_mem (h : Visits rule (fresh settings world cells current) p s)
    {names : List String} (hdeed : .request n names ∈ s.deeds) :
    names ≠ [] ∧ ∀ name ∈ names, name ∈ (s.scanOf n).roots := by
  obtain ⟨before, after, hs⟩ := List.append_of_mem hdeed
  obtain ⟨-, hne, hall, rfl⟩ := h.request_once hs
  refine ⟨hne, fun name hname => ?_⟩
  rw [← hall]
  exact List.mem_map_of_mem (mem_lacking.mp hname)

theorem Visits.request_of_installed (h : Visits rule (fresh settings world cells current) p s)
    {names : List String} {success : Bool} (hdeed : .installed n names success ∈ s.deeds) :
    .request n names ∈ s.deeds := by
  obtain ⟨before, after, hs⟩ := List.append_of_mem hdeed
  rw [hs]
  exact List.mem_append_left _ (h.installed_once hs).1

/-- What is sought for a job are roots of its chunk. -/
theorem Visits.sought_mem (h : Visits rule (fresh settings world cells current) p s) {deed : Deed}
    (hdeed : deed ∈ s.deeds) (hn : deed.searcher? = some n) (hname : name ∈ deed.sought) :
    name ∈ (s.scanOf n).roots := by
  cases deed with
  | probe m root answer =>
    obtain rfl := Option.some.inj hn
    obtain rfl := List.mem_singleton.mp hname
    exact h.probe_mem hdeed
  | request m names =>
    obtain rfl := Option.some.inj hn
    exact (h.request_mem hdeed).2 name hname
  | installed m names success =>
    obtain rfl := Option.some.inj hn
    exact (h.request_mem (h.request_of_installed hdeed)).2 name hname
  | _ => cases hname

/-- The roots of a job's chunk are declared by the lines that stay in it. -/
theorem mem_roots_scanOf (h : name ∈ (s.scanOf n).roots) :
    s.settings.get .heavyDependency ≠ .str name ∧ ∃ chunk, s.request? n = some (.evaluate chunk) ∧
      (s.scanOf n).source.toList = unlines (keptLines s.heavy.toList chunk.toList) ∧
      ∃ line ∈ keptLines s.heavy.toList chunk.toList,
        .package name ∈ declarations s.heavy.toList line := by
  unfold Session.scanOf at h ⊢
  split at h
  next chunk hrequest =>
    split at h
    next heavy hheavy =>
      have hget : s.settings.get .heavyDependency = .str heavy := by
        unfold name? at hheavy
        split at hheavy <;> simp_all
      have hspelling : s.heavy = heavy := by
        simp only [Session.heavy, Settings.text, hget]
        rfl
      obtain ⟨hne, hline⟩ := mem_scan_roots.mp h
      rw [hget, hspelling]
      exact ⟨by simpa using hne.symm, chunk, hrequest, String.toList_ofList, hline⟩
    next hheavy =>
      refine ⟨fun hget => ?_, chunk, hrequest, String.toList_ofList, mem_scanSpelling_roots.mp h⟩
      simp [name?, hget] at hheavy
  next => simp at h

/-- Whatever comes and in whatever order, a name that is probed or asked for is declared by a line
that stays in the chunk it is looked for, and is neither the heavy library nor the path of a module
beside a chunk's own. Where the heavy library has a name of word characters, a statement on a line
adds to the roots of its chunk what it declares but for that library; one that imports only the
library, in any form, or a module beside the chunk's own adds none. So nothing is probed or asked for
on behalf of a chunk in which all lines are such statements or declare nothing. -/
theorem sought_from_kept_lines (settings : Settings) (world : World) (cells : List Cell)
    (current : Option Nat) (h : Reaches .anything (fresh settings world cells current) s) :
    (∀ deed ∈ s.deeds, ∀ n, deed.searcher? = some n → ∀ name ∈ deed.sought,
      settings.get .heavyDependency ≠ .str name ∧
      (∀ heavy line path, .relative path ∈ declarations heavy line → name ≠ path) ∧
      ∃ chunk, s.request? n = some (.evaluate chunk) ∧
        (s.scanOf n).source.toList =
          unlines (keptLines (settings.text .heavyDependency).toList chunk.toList) ∧
        ∃ line ∈ keptLines (settings.text .heavyDependency).toList chunk.toList,
          .package name ∈ declarations (settings.text .heavyDependency).toList line) ∧
    ∀ heavy : String, settings.get .heavyDependency = .str heavy →
      (∀ c ∈ heavy.toList, isWord c = true) →
      (∀ chunk front back (statement : Statement) comment,
        lines chunk.toList = front ++ statement.line comment :: back → ∀ root,
        (root ∈ (scan heavy chunk).roots ↔ root ≠ heavy ∧ (.package root ∈ statement.declarations ∨
          ∃ line ∈ front ++ back, .package root ∈ declarations heavy.toList line)) ∧
        (statement.Exempt heavy.toList → (root ∈ (scan heavy chunk).roots ↔ root ≠ heavy ∧
          ∃ line ∈ front ++ back, .package root ∈ declarations heavy.toList line))) ∧
      ∀ n chunk, s.request? n = some (.evaluate chunk) →
        (∀ line ∈ lines chunk.toList, declarations heavy.toList line = [] ∨
          ∃ statement : Statement, statement.Exempt heavy.toList ∧
            ∃ comment, line = statement.line comment) →
        (∀ name answer, .probe n name answer ∉ s.deeds) ∧
        (∀ names, .request n names ∉ s.deeds) ∧
        ∀ names success, .installed n names success ∉ s.deeds := by
  have hv := visits_of_reaches h
  have hsettings : s.settings = settings := hv.later.settings
  refine ⟨fun deed hdeed n hn name hname => ?_, fun heavy hget hword =>
    ⟨fun chunk front back statement comment hlines root => ?_, fun n chunk hrequest hlines => ?_⟩⟩
  · obtain ⟨hne, chunk, hrequest, hsource, line, hline, hroot⟩ :=
      mem_roots_scanOf (hv.sought_mem hdeed hn hname)
    rw [Session.heavy, hsettings] at hsource hline hroot
    exact ⟨hsettings ▸ hne, fun _ _ _ => ne_of_relative hroot, chunk, hrequest, hsource, line, hline,
      hroot⟩
  · have hroots : root ∈ (scan heavy chunk).roots ↔ _ := mem_roots_of_statement hword hlines
    refine ⟨hroots, fun hexempt => hroots.trans (and_congr_right fun hne => or_iff_right ?_)⟩
    exact fun hroot => hne (String.toList_inj.mp (hexempt.root_eq hroot))
  · have hnone : (s.scanOf n).roots = [] := by
      simp only [Session.scanOf, hrequest, name?, hsettings, hget]
      exact roots_eq_nil hword hlines
    have hrequests (names : List String) : .request n names ∉ s.deeds := fun hdeed => by
      obtain ⟨hne, hnames⟩ := hv.request_mem hdeed
      obtain ⟨name, hname⟩ := List.exists_mem_of_ne_nil names hne
      simpa [hnone] using hnames name hname
    refine ⟨fun name answer hdeed => ?_, hrequests, fun names success hdeed => ?_⟩
    · simpa [hnone] using hv.probe_mem hdeed
    · exact hrequests names (hv.request_of_installed hdeed)

/-- Of a list only the other package is installed, and nothing for a chunk with a submodule. -/
theorem sought_of_list_and_submodule :
    ∃ s, Reaches .anything (fresh default { installer := .scripted {} } [] none) s ∧
      s.request? 1 = some (.evaluate "from torch.nn import Linear") ∧
      s.deeds.flatMap Deed.sought = ["numpy", "numpy", "numpy"] ∧
      (default : Settings).get .heavyDependency ≠ .str "numpy" ∧
      ∀ names, .request 1 names ∉ s.deeds := by
  let world : World := { installer := .scripted {} }
  let chunk := "from torch.nn import Linear"
  let s := (((fresh default world [] none).serve (.evaluate "import torch, numpy")).2.serve
    (.evaluate chunk)).2
  have hs : Reaches .anything (fresh default world [] none) s :=
    reaches_serve (reaches_serve .refl trivial fun _ _ => trivial) trivial fun _ _ => trivial
  obtain ⟨hsought, hheavy⟩ := sought_from_kept_lines default world [] none hs
  have hprobe : .probe 0 "numpy" (some false) ∈ s.deeds := mem_answers.mp (by decide +kernel)
  refine ⟨s, hs, by decide +kernel, by decide +kernel,
    (hsought _ hprobe 0 rfl "numpy" (List.mem_singleton_self _)).1, ?_⟩
  let statement : Statement := .names .empty .single
    (.module ⟨.ofText "torch" (by decide +kernel), [.ofText "nn" (by decide +kernel)]⟩) .single
    .single
    ⟨"Linear".toList, ⟨'L', by decide⟩, by decide, by decide⟩
  have hword := List.all_eq_true.mp (show "torch".toList.all isWord from by decide +kernel)
  refine ((hheavy "torch" rfl hword).2 1 chunk (by decide +kernel) ?_).2.1
  have hlines : lines chunk.toList = [statement.line none] := by decide
  intro line hline
  rw [hlines, List.mem_singleton] at hline
  exact .inr ⟨statement, rfl, none, hline⟩

end Chunkwise.Session
