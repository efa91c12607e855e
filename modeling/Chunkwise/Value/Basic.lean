import Chunkwise.Decimal.Shortest
import Chunkwise.Fault.Kind

/-!
The values that code computes with. A value is either all there is to it, such as a number or a
text, or the address of an object that may change; two values are one and the same exactly when
they are equal terms.
-/
namespace Chunkwise
open Chunkwise.Decimal

/-- The place of an object in a store. -/
abbrev Address := Nat

/-- A place in running code. -/
structure Place where
  file : String
  line : Nat
  name : String
  deriving DecidableEq, Repr

/-- The finite containers that hold their items in order. -/
inductive SeqForm where
  | list | listSub | tuple | tupleSub | set | frozenSet | generator
  deriving DecidableEq, Repr

/-- The mappings: `plain` ones, read-only views, and a class of them with an empty `Tensor`
attribute. -/
inductive MapForm where
  | dict | view | hollow
  deriving DecidableEq, Repr

/-- The functions that every chunk knows. -/
inductive Builtin where
  | print | len | repr | str | sum | list | range | tick | answer | badRepr | exit
  deriving DecidableEq, Repr

/-- The operations that belong to an object and are called on it. -/
inductive Method where
  /-- A tensor of data, by the adapters. -/
  | makeTensor
  /-- The data of a tensor, by the adapters. -/
  | tensorData
  /-- A list of data, by the adapters. -/
  | hostList
  /-- What an object has for the host. -/
  | toHost
  /-- What an object has for a list. -/
  | toList
  deriving DecidableEq, Repr

inductive Value where
  | null
  | bool (b : Bool)
  | int (n : Int)
  | float (x : Double)
  | str (s : String)
  | bytes (data : List UInt8)
  | range (start stop step : Int)
  /-- A class of faults. -/
  | kind (kind : Fault.Kind)
  | builtin (function : Builtin)
  /-- The class of tensors. -/
  | tensorClass
  /-- The object behind the name of a way to leave. -/
  | leave (name : String)
  | method (method : Method) (self : Address)
  /-- The object at an address. -/
  | ref (a : Address)
  deriving DecidableEq, Repr

instance : Inhabited Value := ⟨.null⟩

/-- What an attribute that converts its object holds. -/
inductive Conversion (α : Type) where
  | returns (value : α)
  | raises (message : α)
  /-- A number, which cannot be called. -/
  | number (n : Int)
  deriving DecidableEq, Repr

namespace Value

def isNull : Value → Bool
  | .null => true
  | _ => false

/-- A value that counts as a number: an integer or a double. -/
def number? : Value → Option (Int ⊕ Double)
  | .bool b => some (.inl (if b then 1 else 0))
  | .int n => some (.inl n)
  | .float x => some (.inr x)
  | _ => none

/-- The integer that a value is, where a truth value counts as one. -/
def int? : Value → Option Int
  | .bool b => some (if b then 1 else 0)
  | .int n => some n
  | _ => none

end Value

namespace Builtin

/-- The built-in names that stand for types. -/
def isType : Builtin → Bool
  | .str | .list | .range => true
  | _ => false

/-- The functions among the built-in ones that are written in the language itself. -/
def isFunction : Builtin → Bool
  | .tick | .answer | .badRepr => true
  | _ => false

/-- The name that a built-in function has of its own. -/
def name : Builtin → String
  | .print => "print"
  | .len => "len"
  | .repr => "repr"
  | .str => "str"
  | .sum => "sum"
  | .list => "list"
  | .range => "range"
  | .tick => "tick"
  | .answer => "answer"
  | .badRepr => "badrepr"
  | .exit => "exit"

end Builtin

/-- The name of the type of a value that is no object. -/
def Value.typeName : Value → String
  | .null => "NoneType"
  | .bool _ => "bool"
  | .int _ => "int"
  | .float _ => "float"
  | .str _ => "str"
  | .bytes _ => "bytes"
  | .range .. => "range"
  | .kind _ | .tensorClass => "type"
  | .builtin f =>
    if f.isType then "type"
    else if f.isFunction then "function"
    else "builtin_function_or_method"
  | .leave _ => "Quitter"
  | .method .. => "method"
  | .ref _ => "object"

namespace SeqForm

def typeName : SeqForm → String
  | .list => "list"
  | .listSub => "ListSub"
  | .tuple => "tuple"
  | .tupleSub => "TupleSub"
  | .set => "set"
  | .frozenSet => "frozenset"
  | .generator => "generator"

def isList : SeqForm → Bool
  | .list | .listSub => true
  | _ => false

def isTuple : SeqForm → Bool
  | .tuple | .tupleSub => true
  | _ => false

def isSet : SeqForm → Bool
  | .set | .frozenSet => true
  | _ => false

end SeqForm

def MapForm.typeName : MapForm → String
  | .dict => "dict"
  | .view => "mappingproxy"
  | .hollow => "DictSub"

end Chunkwise
