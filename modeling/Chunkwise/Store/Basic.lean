import Chunkwise.Code.Tree
import Chunkwise.Datum.Basic

/-!
The objects of running code, each at an address of its own. Objects are only added and changed,
never moved or removed, so an address stands for one object for good.
-/
namespace Chunkwise

/-- A parameter, with the value that it has when no argument is given. -/
abbrev Parameter := String × Option Value

/-- A function of the language. The path is its name behind those of the functions around it. -/
structure Function where
  file : String
  name : String
  path : String
  isAsync : Bool
  params : List Parameter
  body : List Code.Stmt
  /-- The names that are local to a call. -/
  declared : List String
  /-- The names at the top of the code that it comes from. -/
  globals : Address
  /-- The names of the call in which it was defined. -/
  outer : Option Address

/-- Names bound by a call of a function, or at the top of code. -/
structure Scope where
  names : Bindings := []
  /-- The names that a call may bind. -/
  declared : List String := []
  outer : Option Address := none

/-- Work that is done when it is awaited. -/
inductive Work where
  | tick
  | answer (value : Value)
  | call (f : Function) (bound : Bindings)

/-- How far awaited work has come. -/
inductive Progress where
  | waiting | running | over
  deriving DecidableEq, Repr

/-- A fault as an object: code may hold it, raise it again and give it another cause. -/
structure Exception where
  kind : Fault.Kind
  args : List Value := []
  detail : Option Detail := none
  trace : List Place := []
  notes : List String := []
  cause : Option Address := none

/-- What an object is. -/
inductive Nature where
  | seq (form : SeqForm) (items : Array Value)
  | map (form : MapForm) (entries : List (Value × Value))
  | bytes (data : List UInt8)
  /-- An object without a value of its own. -/
  | plain
  | convertible (type : String) (toHost toList : Option (Conversion Value))
      (items : Option (List Value))
  | tensor
  /-- The heavy library as an object. -/
  | library
  /-- The adapters around a tensor class. -/
  | adapters (class_ : Value)
  | badRepr (message : Value)
  | function (f : Function)
  | module
  | coroutine (work : Work) (progress : Progress)
  | exception (e : Exception)
  | scope (scope : Scope)

structure Object where
  nature : Nature
  attributes : Bindings := []

instance : Inhabited Object := ⟨{ nature := .plain }⟩

namespace Object

abbrev seq (form : SeqForm) (items : List Value) : Object :=
  { nature := .seq form items.toArray }

abbrev scope (names : Bindings) : Object :=
  { nature := .scope { names := names } }

/-- A module with what it binds. -/
def module (name : String) (attributes : Bindings) : Object :=
  { nature := .module, attributes := ("__name__", .str name) :: attributes }

end Object

structure Store where
  objects : Array Object

namespace Store

def get? (store : Store) (a : Address) : Option Object :=
  store.objects[a]?

def nature? (store : Store) (a : Address) : Option Nature :=
  (store.get? a).map (·.nature)

/-- Adds an object, at the address behind all others. -/
def add (store : Store) (object : Object) : Address × Store :=
  (store.objects.size, ⟨store.objects.push object⟩)

/-- Changes the object at an address. -/
def modify (store : Store) (a : Address) (f : Object → Object) : Store :=
  ⟨store.objects.modify a f⟩

/-- Puts another nature at an address; what is bound there stays. -/
def setNature (store : Store) (a : Address) (nature : Nature) : Store :=
  store.modify a fun object => { object with nature := nature }

theorem get?_add (store : Store) (object : Object) (b : Address) :
    (store.add object).2.get? b = if b = store.objects.size then some object else store.get? b := by
  simp only [add, get?]
  grind

theorem get?_modify (store : Store) (a b : Address) (f : Object → Object) :
    (store.modify a f).get? b = if a = b then (store.get? b).map f else store.get? b := by
  simp only [modify, get?, Array.getElem?_modify]

/-! The names bound in a scope. -/

def scope? (store : Store) (a : Address) : Option Scope :=
  match store.nature? a with
  | some (.scope s) => some s
  | _ => none

def names (store : Store) (a : Address) : Bindings :=
  ((store.scope? a).map (·.names)).getD []

/-- Changes the names bound in a scope. -/
def mapNames (store : Store) (a : Address) (f : Bindings → Bindings) : Store :=
  store.modify a fun object =>
    match object with
    | { nature := .scope s, attributes } =>
      { nature := .scope { s with names := f s.names }, attributes := attributes }
    | object => object

/-! The first objects of every store. -/

/-- The names of the host. -/
abbrev hostScope : Address := 0

/-- The module of the names that all code knows. -/
abbrev builtinsModule : Address := 1

/-- The modules that are always there, by their names, with what they bind. The module of paths
has a name of its own. -/
def standardModules : List (String × Object) :=
  [("os", .module "os" [("path", .ref 3)]), ("os.path", .module "posixpath" []),
    ("sys", .module "sys" [("exit", .builtin .exit)]), ("json", .module "json" []),
    ("math", .module "math" []), ("asyncio", .module "asyncio" []), ("types", .module "types" []),
    ("typing", .module "typing" [])]

/-- A store before anything has run. -/
def initial : Store where
  objects := #[.scope [], .module "builtins" []] ++ (standardModules.map (·.2)).toArray

instance : Inhabited Store := ⟨initial⟩

/-- The addresses of the standard modules. -/
def standardNames : Bindings :=
  standardModules.zipIdx.map fun (entry, i) => (entry.1, .ref (i + 2))

end Store

end Chunkwise
