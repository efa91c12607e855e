import Chunkwise.Store.Construct

/-!
Faults that steps of the outside world are going to raise.
-/
namespace Chunkwise.World

/-- A fault laid down in advance. A failed install names the packages asked for unless it has a
list of its own. -/
structure Plan where
  kind : Fault.Kind
  message : String
  packages : Option (List String) := none
  status : Option Int := none
  deriving DecidableEq, Repr

/-- The planned fault at a step that was asked for packages. A class that refuses the message
raises its refusal instead. -/
def Plan.fault (plan : Plan) (asked : List String) : Fault :=
  match plan.kind with
  | .resolutionFailure => .resolutionFailure (plan.packages.getD asked) plan.message
  | .bridgeLoadFailure => .bridgeLoadFailure plan.message plan.status
  | kind =>
    match Fault.construct kind [.str plan.message] with
    | .ok fault | .error fault => fault

end Chunkwise.World
