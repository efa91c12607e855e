import Chunkwise.Store.Iterate
import Chunkwise.Value.Builtins

/-!
The attributes of values: what they bind under names, and what some have by their nature.
-/
namespace Chunkwise.Store

/-- What faults of a class hold under names; until something is held it is nothing. -/
def memberNames (kind : Fault.Kind) : List String :=
  if kind.isA .syntaxError then
    ["msg", "filename", "lineno", "offset", "text", "end_lineno", "end_offset",
      "print_file_and_line"]
  else if kind.isA .osError then ["errno", "strerror", "filename", "filename2"]
  else if kind.isA .importError then ["msg", "name", "path"]
  else if kind.isA .attributeError then ["name", "obj"]
  else if kind.isA .nameError then ["name"]
  else if kind.isA .stopIteration then ["value"]
  else if kind.isA .systemExit then ["code"]
  else []

/-- An attribute that an exception has by its nature. -/
def exceptionAttribute? (e : Exception) (name : String) : Action (Option Value) :=
  match name with
  | "args" => some <$> Action.make (.seq .tuple e.args)
  | "__cause__" => pure (some (e.cause.elim .null .ref))
  | "__context__" => pure (some .null)
  | "__class__" => pure (some (.kind e.kind))
  | "value" => pure (if e.kind.isA .stopIteration then some (e.args.headD .null) else none)
  | "code" => pure (if e.kind.isA .systemExit then some (e.args.headD .null) else none)
  | name => pure (if name ∈ memberNames e.kind then some .null else none)

/-- The attribute that a conversion is. -/
def conversionAttribute (a : Address) (method : Method) : Conversion Value → Value
  | .number n => .int n
  | _ => .method method a

/-- An attribute that an object has by its nature. -/
def natural? (a : Address) (nature : Nature) (name : String) : Action (Option Value) :=
  match nature with
  | .exception e => exceptionAttribute? e name
  | .function f =>
    pure (match name with
      | "__name__" => some (.str f.name)
      | "__qualname__" => some (.str f.path)
      | "__doc__" => some .null
      | _ => none)
  | .module => pure (if a = builtinsModule then builtin? name else none)
  | .map .hollow _ => pure (if name = "Tensor" then some .null else none)
  | .adapters _ =>
    pure (match name with
      | "create_tensor_from_python_data" => some (.method .makeTensor a)
      | "get_data_from_tensor" => some (.method .tensorData a)
      | "to_js_list" => some (.method .hostList a)
      | _ => none)
  | .convertible _ toHost toList _ =>
    pure (match name with
      | "to_host" => toHost.map (conversionAttribute a .toHost)
      | "tolist" => toList.map (conversionAttribute a .toList)
      | _ => none)
  | _ => pure none

/-- The attribute of a value, when it has it. -/
def attribute? (v : Value) (name : String) : Action (Option Value) := do
  let isOwnName := name = "__name__" ∨ name = "__qualname__"
  match v with
  | .ref a =>
    match ← Action.reading (·.get? a) with
    | none => return none
    | some object =>
      match object.attributes.get? name with
      | some held => return some held
      | none => natural? a object.nature name
  | .kind k => return if isOwnName then some (.str k.name) else none
  | .builtin f => return if isOwnName then some (.str f.name) else none
  | .tensorClass => return if name = "__name__" then some (.str "Tensor") else none
  | _ => return none

/-- What is said of a missing attribute. -/
def missingAttribute (store : Store) (v : Value) (name : String) : String :=
  let own := s!"'{store.typeName v}' object has no attribute '{name}'"
  match v with
  | .kind k => s!"type object '{k.name}' has no attribute '{name}'"
  | .tensorClass => s!"type object 'Tensor' has no attribute '{name}'"
  | .builtin f => if f.isType then s!"type object '{f.name}' has no attribute '{name}'" else own
  | .ref a =>
    match store.get? a with
    | some { nature := .module, attributes } =>
      match attributes.get? "__name__" with
      | some (.str moduleName) => s!"module '{moduleName}' has no attribute '{name}'"
      | _ => s!"module has no attribute '{name}'"
    | _ => own
  | _ => own

/-- Reads an attribute. -/
def getAttribute (v : Value) (name : String) : Action Value := do
  match ← attribute? v name with
  | some value => return value
  | none =>
    let message ← Action.reading (·.missingAttribute v name)
    Action.fail (.of .attributeError message)

/-- Objects of this nature bind whatever is assigned to them. -/
def isOpen : Nature → Bool
  | .seq form _ => form = .listSub ∨ form = .tupleSub
  | .map form _ => form = .hollow
  | .bytes _ | .coroutine .. | .scope _ => false
  | _ => true

/-- The name of a type that cannot be changed. -/
def fixedType? : Value → Option String
  | .kind k => some k.name
  | .builtin f => if f.isType then some f.name else none
  | _ => none

/-- What is said where a value binds nothing. -/
def refuseBinding (v : Value) (name : String) : Action Unit := do
  match fixedType? v with
  | some type =>
    Action.fail (.of .typeError s!"cannot set '{name}' attribute of immutable type '{type}'")
  | none =>
    let message ← Action.reading (·.missingAttribute v name)
    Action.fail (.of .attributeError message)

/-- Binds an attribute. The arguments of an exception are always a tuple. -/
def setAttribute (v : Value) (name : String) (new : Value) : Action Unit := do
  match v, (← Action.reading (·.natureOf v)) with
  | .ref a, some nature =>
    match nature, name, new with
    | .exception e, "args", new =>
      let args ← drain new
      Action.setNature a (.exception { e with args := args })
    | .exception e, "__cause__", .null =>
      Action.setNature a (.exception { e with cause := none })
    | .exception e, "__cause__", .ref c =>
      Action.setNature a (.exception { e with cause := some c })
    | nature, name, new =>
      if isOpen nature then
        Action.changing (·.modify a fun object =>
          { object with attributes := object.attributes.set name new })
      else refuseBinding v name
  | v, _ => refuseBinding v name

/-- Takes an attribute away, which must be bound by the value itself. -/
def deleteAttribute (v : Value) (name : String) : Action Unit := do
  match v with
  | .ref a =>
    match ← Action.reading (·.get? a) with
    | some object =>
      if ¬ isOpen object.nature then refuseBinding v name
      else if object.attributes.has name then
        Action.changing (·.modify a fun object =>
          { object with attributes := object.attributes.erase name })
      else Action.fail (.of .attributeError name)
    | none => refuseBinding v name
  | v => refuseBinding v name

end Chunkwise.Store
