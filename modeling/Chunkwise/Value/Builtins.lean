import Chunkwise.Value.Basic

/-!
The names that all code knows without binding them.
-/
namespace Chunkwise

/-- What a name means that is bound nowhere. -/
def builtin? (name : String) : Option Value :=
  match name with
  | "print" => some (.builtin .print)
  | "len" => some (.builtin .len)
  | "repr" => some (.builtin .repr)
  | "str" => some (.builtin .str)
  | "sum" => some (.builtin .sum)
  | "list" => some (.builtin .list)
  | "range" => some (.builtin .range)
  | "tick" => some (.builtin .tick)
  | "answer" => some (.builtin .answer)
  | "badrepr" => some (.builtin .badRepr)
  | "exit" | "quit" => some (.leave name)
  | "__name__" => some (.str "builtins")
  | name => (Fault.Kind.ofName? name).map .kind

end Chunkwise
