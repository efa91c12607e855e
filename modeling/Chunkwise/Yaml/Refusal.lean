import Chunkwise.Datum.Basic

/-!
Why a settings file has no value.
-/
namespace Chunkwise.Yaml

inductive Refusal where
  /-- The text of the file is malformed. -/
  | malformed
  /-- A value cannot be made of its text. -/
  | fault (fault : Fault)

def refuse {α : Type} (kind : Fault.Kind) (message : String) : Except Refusal α :=
  .error (.fault (.of kind message))

end Chunkwise.Yaml
