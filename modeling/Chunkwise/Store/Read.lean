import Chunkwise.Datum.Text
import Chunkwise.Store.Basic

/-!
Reading a value as a finite tree. A container that is met inside itself is cut off there, so a
reading never goes deeper than there are objects.
-/
namespace Chunkwise

namespace Store

/-- How much of an object a reading looks into. -/
inductive View where
  /-- All there is to see. -/
  | shown
  /-- Containers and objects that convert themselves; any other object is a leaf. -/
  | host
  deriving DecidableEq, Repr

/-- The address at which a value is found, for work that stands for a call. -/
def workName : Work → String
  | .tick => "tick"
  | .answer _ => "answer"
  | .call f _ => f.path

mutual

/-- The datum of a value, inside the objects at the open addresses. -/
def readIn (store : Store) (view : View) : Nat → List Address → Value → Datum
  | 0, _, v => .leaf v
  | n + 1, opened, .ref a =>
    match store.get? a with
    | none => .leaf (.ref a)
    | some object => readObject store view n opened a object
  | _ + 1, _, v => .leaf v

/-- The datum of an object. -/
def readObject (store : Store) (view : View) : Nat → List Address → Address → Object → Datum
  | 0, _, a, _ => .leaf (.ref a)
  | n + 1, opened, a, object =>
    let inner := readIn store view n (a :: opened)
    let held (name : String) : Datum := inner ((object.attributes.get? name).getD .null)
    let isAgain := opened.contains a
    match object.nature, view with
    | .seq form items, _ =>
      if isAgain then .again form.again else .seq form (items.toList.map inner)
    | .map form entries, _ =>
      if isAgain then .again form.again
      else .map form (entries.map fun (k, v) => (inner k, inner v))
    | .convertible type toHost toList items, _ =>
      let conversion : Conversion Value → Conversion Datum
        | .returns v => .returns (.leaf v)
        | .raises v => .raises (.leaf v)
        | .number m => .number m
      .convertible type (toHost.map conversion) (toList.map conversion)
        (if isAgain then none else items.map (·.map inner))
    | _, .host => .leaf (.ref a)
    | .bytes data, .shown => .bytes data
    | .plain, .shown => .plain
    | .tensor, .shown =>
      if isAgain then .again "Tensor(...)"
      else .tensor (held "data") (held "requires_grad")
    | .library, .shown => .object "Library" "<Library object>"
    | .adapters _, .shown => .object "TensorAdapters" "<TensorAdapters object>"
    | .badRepr message, .shown => .badRepr (if isAgain then .null else inner message)
    | .function f, .shown => .object "function" s!"<function {f.path}>"
    | .module, .shown =>
      let name := match object.attributes.get? "__name__" with
        | some (.str s) => quotedText s
        | _ => "?"
      .object "module" s!"<module {name}>"
    | .coroutine work _, .shown => .object "coroutine" s!"<coroutine object {workName work}>"
    | .exception e, .shown =>
      if isAgain then .fault { kind := e.kind }
      else .fault (readException store view n (a :: opened) e object.attributes)
    | .scope _, .shown => .object "dict" "<names>"

/-- The fault that an exception stands for. A cause that is met inside itself is only named. -/
def readException (store : Store) (view : View) :
    Nat → List Address → Exception → Bindings → Fault
  | 0, _, e, _ => { kind := e.kind }
  | n + 1, opened, e, attributes =>
    let inner := readIn store view n opened
    { kind := e.kind
      args := e.args.map inner
      detail := e.detail
      members := attributes.map fun (name, v) => (name, inner v)
      trace := e.trace
      notes := e.notes
      cause := e.cause.bind fun c =>
        match inner (.ref c) with
        | .fault f => some f
        | _ => none }

end

/-- The depth to which values are shown and compared. -/
def nestingLimit : Nat := 960

/-- Deep enough for any reading, or deeper than can be shown: each level opens an object that was
not open. -/
def depth (store : Store) : Nat :=
  min (3 * (store.objects.size + 1)) (4 * nestingLimit)

/-- All that can be seen of a value. -/
def read (store : Store) (v : Value) : Datum :=
  store.readIn .shown store.depth [] v

/-- A value as the host takes it: containers are looked into, other objects are not. However deep
they are nested, no more of them can be open than there are. -/
def hostView (store : Store) (v : Value) : Datum :=
  store.readIn .host (2 * store.objects.size) [] v

/-- The fault that an exception stands for. -/
def report (store : Store) (a : Address) : Fault :=
  match store.read (.ref a) with
  | .fault f => f
  | _ => { kind := .exception }

def recursionFault {α : Type} (where_ : String) : Except Fault α :=
  .error (.of .recursionError ("maximum recursion depth exceeded" ++ where_))

/-- All that can be seen of a value, unless it is too deep to be shown. -/
def showable (store : Store) (v : Value) : Except Fault Datum :=
  let d := store.read v
  if d.height < nestingLimit then .ok d
  else recursionFault " while getting the repr of an object"

/-- The text that shows a value. -/
def render (store : Store) (v : Value) : Except Fault String :=
  (store.showable v).bind Datum.render

/-- The text of a value on its own. -/
def text (store : Store) (v : Value) : Except Fault String :=
  (store.showable v).bind Datum.text

/-- The name of a value's type. -/
def typeName (store : Store) (v : Value) : String :=
  match v with
  | .ref a =>
    match store.nature? a with
    | some (.seq form _) => form.typeName
    | some (.map form _) => form.typeName
    | some (.bytes _) => "bytearray"
    | some .plain => "Opaque"
    | some (.convertible type ..) => type
    | some .tensor => "Tensor"
    | some .library => "Library"
    | some (.adapters _) => "TensorAdapters"
    | some (.badRepr _) => "BadRepr"
    | some (.function _) => "function"
    | some .module => "module"
    | some (.coroutine ..) => "coroutine"
    | some (.exception e) => e.kind.name
    | some (.scope _) => "dict"
    | none => "object"
  | v => v.typeName

end Store

end Chunkwise
