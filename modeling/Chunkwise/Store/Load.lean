import Chunkwise.Store.Basic

/-!
Bringing data into a store: every container and every object of a datum becomes an object with an
address of its own.
-/
namespace Chunkwise

/-- The names of the parts of a tensor and of what a library binds. -/
def tensorObject (data requiresGrad : Value) : Object :=
  { nature := .tensor, attributes := [("data", data), ("requires_grad", requiresGrad)] }

namespace Store

/-- Adds an object and gives it as a value. -/
def make (store : Store) (object : Object) : Value × Store :=
  match store.add object with
  | (a, store') => (.ref a, store')

mutual

/-- The value of a datum, and the store with the objects that it needs. -/
def load (store : Store) : Datum → Value × Store
  | .leaf v => (v, store)
  | .bytes data => store.make { nature := .bytes data }
  | .seq form items =>
    match loadAll store items with
    | (values, store') => store'.make (.seq form values)
  | .map form entries =>
    match loadEntries store entries with
    | (loaded, store') => store'.make { nature := .map form loaded }
  | .plain => store.make { nature := .plain }
  | .convertible type toHost toList items =>
    match loadConversion? store toHost with
    | (toHost, store) =>
      match loadConversion? store toList with
      | (toList, store) =>
        match loadOption store items with
        | (items, store) => store.make { nature := .convertible type toHost toList items }
  | .tensor data requiresGrad =>
    match load store data with
    | (d, store) =>
      match load store requiresGrad with
      | (g, store) => store.make (tensorObject d g)
  | .object _ _ => store.make { nature := .plain }
  | .badRepr message =>
    match load store message with
    | (m, store) => store.make { nature := .badRepr m }
  | .fault f =>
    match loadFault store f with
    | (a, store) => (.ref a, store)
  | .again text => (.str text, store)

def loadAll (store : Store) : List Datum → List Value × Store
  | [] => ([], store)
  | d :: rest =>
    match load store d with
    | (v, store) =>
      match loadAll store rest with
      | (values, store) => (v :: values, store)

def loadEntries (store : Store) : List (Datum × Datum) → List (Value × Value) × Store
  | [] => ([], store)
  | (k, d) :: rest =>
    match load store k with
    | (key, store) =>
      match load store d with
      | (v, store) =>
        match loadEntries store rest with
        | (entries, store) => ((key, v) :: entries, store)

def loadNamed (store : Store) : List (String × Datum) → Bindings × Store
  | [] => ([], store)
  | (name, d) :: rest =>
    match load store d with
    | (v, store) =>
      match loadNamed store rest with
      | (named, store) => ((name, v) :: named, store)

def loadOption (store : Store) : Option (List Datum) → Option (List Value) × Store
  | none => (none, store)
  | some items =>
    match loadAll store items with
    | (values, store) => (some values, store)

def loadConversion (store : Store) : Conversion Datum → Conversion Value × Store
  | .returns d =>
    match load store d with
    | (v, store) => (.returns v, store)
  | .raises d =>
    match load store d with
    | (v, store) => (.raises v, store)
  | .number n => (.number n, store)

def loadConversion? (store : Store) :
    Option (Conversion Datum) → Option (Conversion Value) × Store
  | none => (none, store)
  | some c =>
    match loadConversion store c with
    | (c, store) => (some c, store)

/-- The exception that a fault becomes. -/
def loadFault (store : Store) : Fault → Address × Store
  | { kind, args, detail, members, trace, notes, cause } =>
    match loadAll store args with
    | (args, store) =>
      match loadNamed store members with
      | (attributes, store) =>
        match loadCause store cause with
        | (cause, store) =>
          store.add
            { nature := .exception
                { kind := kind, args := args, detail := detail, trace := trace, notes := notes
                  cause := cause }
              attributes := attributes }

def loadCause (store : Store) : Option Fault → Option Address × Store
  | none => (none, store)
  | some f =>
    match loadFault store f with
    | (a, store) => (some a, store)

end

end Store

end Chunkwise
