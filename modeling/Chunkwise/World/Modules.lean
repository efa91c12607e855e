import Chunkwise.World.Plan

/-!
The modules that code can import.
-/
namespace Chunkwise.World

/-- What importing a module for the first time does: it sets its value, writes its text and then
may fail. -/
structure ModuleCode where
  value : Datum
  text : String := ""
  failure : Option Plan := none

structure Modules where
  declared : List (String × ModuleCode) := []
  /-- The modules that are there, by the names that they are imported under. -/
  loaded : Bindings := Store.standardNames

/-- The standard modules that have modules inside. -/
def standardPackages : List String :=
  ["json", "asyncio"]

/-- The module, if it is loaded. -/
def Modules.get? (modules : Modules) (name : String) : Option Value :=
  modules.loaded.get? name

def Modules.keep (modules : Modules) (name : String) (m : Value) : Modules :=
  { modules with loaded := modules.loaded.set name m }

end Chunkwise.World
