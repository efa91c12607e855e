import Chunkwise.Text.Utf8
import Chunkwise.World.Journal
import Chunkwise.World.Plan

/-!
Installers of packages: a scripted one, and the package tool run as a process of its own.
-/
namespace Chunkwise.World

/-- How one run of the package tool goes. -/
inductive ToolRun where
  | exits (code : Int) (output : List UInt8) (provides : List String)
  | failure (plan : Plan)
  deriving DecidableEq, Repr

/-- An installer that follows a script: the outcome of each preparation and of each install, the
names it does not provide and the number of turns that each takes. -/
structure Scripted where
  preparations : List (Option Plan) := []
  installs : List (Option Plan) := []
  withheld : List String := []
  turns : Nat := 0
  preparationTurns : Nat := 1
  prepared : Nat := 0
  requests : List (List String) := []
  deriving DecidableEq, Repr

/-- The package tool: the distributions of packages, the interpreter that runs it, whether it is
there, and how its runs will go. -/
structure Tool where
  /-- The distributions of packages; one that is no text cannot be asked for. -/
  aliases : List (String × Datum) := []
  python : String := "<python>"
  found : Bool := true
  available : Option Bool := none
  runs : List ToolRun := []
  started : List (List String) := []

inductive Installer where
  | absent
  | scripted (script : Scripted)
  | tool (tool : Tool)

/-- The installer with the distributions of packages. -/
def Installer.withAliases (aliases : List (String × Datum)) : Installer → Installer
  | .tool t => .tool { t with aliases := aliases }
  | other => other

/-- The outcome of an install: a fault or the names that can be imported from now on. -/
abbrev Installed := Except Fault (List String)

/-- The outcome of the next preparation. -/
def Scripted.prepare (s : Scripted) : Option Fault × Scripted :=
  ((s.preparations.headD none).map fun plan => (plan.fault []).sealed,
    { s with preparations := s.preparations.drop 1, prepared := s.prepared + 1 })

def Scripted.install (s : Scripted) (names : List String) : Installed × Scripted :=
  let result :=
    match s.installs.headD none with
    | some plan => .error (plan.fault names).sealed
    | none => .ok (names.filter (· ∉ s.withheld))
  (result, { s with installs := s.installs.drop 1, requests := s.requests ++ [names] })

/-- Looks for the tool. -/
def Tool.prepare (tool : Tool) : List Entry × Tool :=
  (if tool.found then []
    else [⟨.warning, .packages, "pip is not importable; missing packages cannot be installed"⟩],
    { tool with available := some tool.found })

/-- The distribution that a package comes in. -/
def Tool.distribution (tool : Tool) (package : String) : Datum :=
  (tool.aliases.lookup package).getD (.str package)

/-- Runs the tool on the distributions of the packages. A tool known to be missing is not run. -/
def Tool.install (tool : Tool) (packages : List String) : Installed × List Entry × Tool :=
  if tool.available = some false then
    (.error (.resolutionFailure packages "pip is not available in this interpreter"), [], tool)
  else
    match Datum.joinTexts 0 (packages.map tool.distribution) with
    | .error fault => (.error fault, [], tool)
    | .ok names =>
      let noted := [⟨.info, .packages, "Installing packages: " ++ commaSeparated names⟩]
      let result : Installed :=
        match tool.runs.headD (.exits 0 [] []) with
        | .failure plan => .error (plan.fault packages).sealed
        | .exits code output provides =>
          if code = 0 then .ok provides
          else .error (.resolutionFailure packages (String.ofList (Text.decode output)))
      (result, noted,
        { tool with
          runs := tool.runs.drop 1
          started := tool.started ++ [[tool.python, "-m", "pip", "install"] ++ names] })

end Chunkwise.World
