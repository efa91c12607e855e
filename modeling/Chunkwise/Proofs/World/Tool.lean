import Chunkwise.Packages.Resolution
import Chunkwise.Proofs.Datum.Keys
import Chunkwise.Settings.Basic
import Chunkwise.World.Basic
import Mathlib.Logic.Basic

/-!
What the package tool is run for. Its table of distributions says what the settings say, its
processes get the distributions of just the packages asked for, and what it refuses is told of by
the packages themselves.
-/
namespace Chunkwise

/-- A text is looked up among the keys that are texts. -/
theorem lookupKey_text (entries : List (Datum × Datum)) (root : String) :
    lookupKey entries (.str root) =
      (entries.filterMap fun
        | (.str name, dist) => some (name, dist)
        | _ => none).lookup root := by
  induction entries with
  | nil => rfl
  | cons entry rest ih =>
    obtain ⟨key, dist⟩ := entry
    rw [lookupKey, List.find?_cons]
    cases hsame : key.same (.str root) with
    | true =>
      obtain rfl := (Datum.same_str key root).mp hsame
      simp
    | false =>
      have hne : key ≠ .str root := fun e => by
        rw [(Datum.same_str key root).mpr e] at hsame
        cases hsame
      rw [← lookupKey, ih, List.filterMap_cons]
      split
      next => rfl
      next hkey =>
        split at hkey
        next _ name _ hentry =>
          cases hentry
          cases hkey
          have hname : (root == name) = false := by
            simpa using fun e : root = name => hne (e ▸ rfl)
          rw [List.lookup_cons, hname]
        next => cases hkey

theorem Fault.Kind.ordinary_of_osError {kind : Fault.Kind} (h : kind.isA .osError) :
    kind.isOrdinary ∧ ¬kind.isA .resolutionFailure ∧ ¬kind.isA .stopIteration := by
  revert h
  cases kind <;> decide

namespace Packages

variable {packages : List String}

/-- A fault that tells of packages, whatever the reason. -/
def TellsOf (packages : List String) (fault : Fault) : Prop :=
  ∃ output cause, fault = { Fault.resolutionFailure packages output with cause := cause }

theorem tellsOf_resolution (output : String) :
    TellsOf packages (installFault packages (.resolutionFailure packages output)) := by
  refine ⟨output, none, ?_⟩
  unfold installFault
  rw [if_pos (.inl rfl)]
  rfl

theorem tellsOf_ordinary {fault : Fault} (h : fault.kind.isOrdinary)
    (hother : ¬fault.kind.isA .resolutionFailure) :
    TellsOf packages (installFault packages fault) := by
  refine ⟨fault.safeText, some fault, ?_⟩
  unfold installFault
  rw [if_neg (not_or.mpr ⟨hother, not_not_intro h⟩)]
  rfl

end Packages

namespace World
open Packages

variable {tool : Tool} {settings : Settings} {packages : List String} {w : World}

/-- The distribution in the table of the tool is that of the settings. -/
theorem Tool.distribution_eq (h : tool.aliases = settings.aliases) (root : String) :
    settings.distribution (.str root) = .ok (tool.distribution root) := by
  unfold Settings.distribution Tool.distribution
  rw [lookupKey_text, h]
  rfl

/-- The tool is missing, its process ends with another code than zero, or it cannot be started. -/
inductive Tool.Refuses (tool : Tool) (packages : List String) : Prop
  | missing (h : tool.available = some false)
  | failed {code : Int} {output : List UInt8} {provides : List String}
      (h : tool.runs.headD (.exits 0 [] []) = .exits code output provides) (hcode : code ≠ 0)
  | unstarted {plan : Plan} (h : tool.runs.headD (.exits 0 [] []) = .failure plan)
      (hfault : (plan.fault packages).kind.isA .osError)

theorem Tool.install_refused (h : tool.Refuses packages) :
    ∃ fault, (tool.install packages).1 = .error fault ∧
      TellsOf packages (installFault packages fault) := by
  by_cases hmissing : tool.available = some false
  · refine ⟨_, ?_, tellsOf_resolution "pip is not available in this interpreter"⟩
    rw [Tool.install, if_pos hmissing]
  · rw [Tool.install, if_neg hmissing]
    rcases hnames : Datum.joinTexts 0 (packages.map tool.distribution) with fault | names
    · have hkind := Datum.joinTexts_error hnames
      exact ⟨fault, rfl, tellsOf_ordinary (by rw [hkind]; rfl) (by rw [hkind]; decide)⟩
    · dsimp only
      cases h with
      | missing h => exact absurd h hmissing
      | failed h hcode =>
        rw [h]
        dsimp only
        rw [if_neg hcode]
        exact ⟨_, rfl, tellsOf_resolution _⟩
      | @unstarted plan h hfault =>
        rw [h]
        obtain ⟨hordinary, hother, hends⟩ := Fault.Kind.ordinary_of_osError hfault
        have hsealed : (plan.fault packages).sealed = plan.fault packages := by
          rw [Fault.sealed, if_neg hends]
        refine ⟨_, rfl, ?_⟩
        rw [hsealed]
        exact tellsOf_ordinary hordinary hother

/-- The process that installs distributions. -/
def Tool.command (python : String) (distributions : List String) : List String :=
  [python, "-m", "pip", "install"] ++ distributions

/-- An install starts one process at most, and none if the tool is known to be missing. -/
theorem Tool.install_cases (tool : Tool) (packages : List String) :
    (tool.install packages).2.2 = tool ∨
      tool.available ≠ some false ∧ ∃ distributions : List String,
        distributions.map .str = packages.map tool.distribution ∧
        (tool.install packages).2.2 = { tool with
          runs := tool.runs.drop 1
          started := tool.started ++ [Tool.command tool.python distributions] } := by
  unfold Tool.install
  split
  · exact .inl rfl
  next hfound =>
    split
    · exact .inl rfl
    next names hnames => exact .inr ⟨hfound, names, Datum.joinTexts_eq hnames, rfl⟩

/-- The processes that an installer has started. -/
def Installer.started : Installer → List (List String)
  | .tool tool => tool.started
  | .absent | .scripted _ => []

theorem provide_installer (names : List String) (w : World) :
    (w.provide names).installer = w.installer := by
  unfold provide
  induction names generalizing w with
  | nil => rfl
  | cons name rest ih => exact (ih (provideOne w name)).trans rfl

/-- An install is up to the tool. -/
theorem install_tool (h : w.installer = .tool tool) (packages : List String) :
    (w.install packages).2.installer = .tool (tool.install packages).2.2 ∧
      ((w.install packages).1 = match (tool.install packages).1 with
        | .ok _ => none
        | .error fault => some fault) := by
  unfold install
  rw [h]
  dsimp only
  rcases tool.install packages with ⟨fault | names, entries, tool'⟩
  · exact ⟨rfl, rfl⟩
  · exact ⟨provide_installer names _, rfl⟩

theorem prepareInstaller_tool (h : w.installer = .tool tool) :
    w.prepareInstaller.2.installer = .tool { tool with available := some tool.found } := by
  unfold prepareInstaller
  rw [h]
  rfl

end World

end Chunkwise
