import Chunkwise.Value.Basic

/-!
Names bound to values, in the order in which they were bound first.
-/
namespace Chunkwise

abbrev Bindings := List (String × Value)

namespace Bindings

def get? : Bindings → String → Option Value
  | [], _ => none
  | (first, value) :: rest, name => if first = name then some value else get? rest name

def has (bindings : Bindings) (name : String) : Bool :=
  (bindings.get? name).isSome

def set : Bindings → String → Value → Bindings
  | [], name, value => [(name, value)]
  | (first, old) :: rest, name, value =>
    if first = name then (name, value) :: rest else (first, old) :: set rest name value

def erase : Bindings → String → Bindings
  | [], _ => []
  | (first, value) :: rest, name =>
    if first = name then erase rest name else (first, value) :: erase rest name

def names (bindings : Bindings) : List String :=
  bindings.map (·.1)

theorem get?_set (bindings : Bindings) (name other : String) (value : Value) :
    (bindings.set name value).get? other =
      if name = other then some value else bindings.get? other := by
  fun_induction set bindings name value <;> grind [get?]

theorem get?_erase (bindings : Bindings) (name other : String) :
    (bindings.erase name).get? other = if name = other then none else bindings.get? other := by
  fun_induction erase bindings name <;> grind [get?]

end Bindings

end Chunkwise
