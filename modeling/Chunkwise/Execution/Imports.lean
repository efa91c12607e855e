import Chunkwise.Code.Names
import Chunkwise.Execution.Run
import Chunkwise.Store.Attribute

/-!
Importing modules. The code of a module runs when it is imported for the first time; the modules
around a nested one are imported before it.
-/
namespace Chunkwise.Execution
open Chunkwise.World

/-- A module's parts from the innermost to the outermost. -/
abbrev Path := List String

/-- The segments of a dotted path, innermost first. -/
def Path.ofDotted (dotted : String) : Path :=
  go dotted.toList [] []
where
  go : List Char → List Char → Path → Path
    | [], segment, path => String.ofList segment.reverse :: path
    | c :: rest, segment, path =>
      if c = '.' then go rest [] (String.ofList segment.reverse :: path)
      else go rest (c :: segment) path

def Path.dotted (path : Path) : String :=
  ".".intercalate path.reverse

/-- A fault of importing the module of a name. -/
def importFault (kind : Fault.Kind) (name message : String) : Fault :=
  { kind := kind, args := [.str message]
    members := [("msg", .str message), ("name", .str name), ("path", .null)] }

def noModule (name : String) : Fault :=
  importFault .moduleNotFoundError name s!"No module named '{name}'"

def notInside (name parent : String) : Fault :=
  importFault .moduleNotFoundError name s!"No module named '{name}'; '{parent}' is not a package"

namespace Scene

/-- A module that is loaded. -/
def module? (name : String) (s : Scene) : Option Value :=
  s.world.modules.get? name

/-- Binds an attribute of a module that is loaded. -/
def bindInside (parent child : String) (v : Value) (s : Scene) : Scene :=
  match s.module? parent with
  | some (.ref a) =>
    s.mapWorld (·.mapStore (·.modify a fun object =>
      { object with attributes := object.attributes.set child v }))
  | _ => s

/-- Keeps a module, which the one around it binds from then on. -/
def keepModule (path : Path) (m : Value) (s : Scene) : Scene :=
  let s := s.mapWorld (·.keepModule path.dotted m)
  match path with
  | child :: parent :: outer => s.bindInside (Path.dotted (parent :: outer)) child m
  | _ => s

/-- Makes the module of a code. -/
def makeModule (name : String) (value : Datum) : Store.Action Value := do
  Store.Action.make (.module name [("VALUE", ← Store.Action.load value)])

/-- Runs the code of a module that is not loaded. After a fault it still is not. -/
def loadModule (path : Path) (s : Scene) : Option Fault × Scene :=
  match s.world.modules.declared.lookup path.dotted with
  | none => (some (noModule path.dotted), s)
  | some code =>
    match s.act (makeModule path.dotted code.value) with
    | (.error fault, s) => (some fault, s)
    | (.ok m, s) =>
      match s.write code.text.toList with
      | (some fault, s) => (some fault, s)
      | (none, s) =>
        match code.failure with
        | some plan => (some (plan.fault []), s)
        | none => (none, s.keepModule path m)

/-- The module may have modules inside. -/
def isPackage (name : String) (s : Scene) : Bool :=
  name ∈ standardPackages ||
    match s.module? name with
    | some (.ref a) => (s.store.get? a).any (·.attributes.has "__path__")
    | _ => false

/-- Imports a module and those around it. -/
def importModule : Path → Scene → Option Fault × Scene
  | [], s => (none, s)
  | [name], s => if (s.module? name).isSome then (none, s) else s.loadModule [name]
  | inner :: parent :: outer, s =>
    let path := inner :: parent :: outer
    if (s.module? (Path.dotted path)).isSome then (none, s)
    else
      match importModule (parent :: outer) s with
      | (some fault, s) => (some fault, s)
      | (none, s) =>
        let parentName := Path.dotted (parent :: outer)
        if (s.module? (Path.dotted path)).isSome then (none, s)
        else if s.isPackage parentName then s.loadModule path
        else (some (notInside (Path.dotted path) parentName), s)

/-- Whether a module can be imported; asking for it imports it. Only an ordinary fault means that
it cannot. -/
def probeModule (name : String) (s : Scene) : Except Fault Bool × Scene :=
  if name = "" ∨ name.toList.head? = some '.' then (.ok false, s)
  else
    match s.importModule (Path.ofDotted name) with
    | (none, s) => (.ok true, s)
    | (some fault, s) => (if fault.kind.isOrdinary then .ok false else .error fault, s)

end Scene

namespace Eval
open Store

def importModule (path : Path) : Eval Unit :=
  perform (Scene.importModule path)

/-- A module that is loaded. -/
def moduleValue (name : String) : Eval Value :=
  read fun s => (s.module? name).getD .null

/-- The name that a module has of its own. -/
def ownName? (m : Value) : Eval (Option String) := do
  match ← act (attribute? m "__name__") with
  | some (.str name) => return some name
  | _ => return none

def cannotImport (m : Value) (name : String) : Eval Value := do
  let owner ← ownName? m
  let place ← act (attribute? m "__file__")
  let location := match place with
    | some (.str file) => file
    | _ => "unknown location"
  let ownerText := quotedText (owner.getD "<unknown module name>")
  let message := s!"cannot import name {quotedText name} from {ownerText} ({location})"
  fail (importFault .importError (owner.getD "") message)

/-- An item of a module: an attribute or a module inside. -/
def moduleItem (m : Value) (name : String) : Eval Value := do
  match ← act (attribute? m name) with
  | some v => give v
  | none =>
    match ← ownName? m with
    | none => cannotImport m name
    | some owner =>
      match ← read fun s => s.module? (owner ++ "." ++ name) with
      | some inner => give inner
      | none => cannotImport m name

/-- The innermost module of a path, reached from the outermost through each one inside. -/
def innermost : Path → Eval Value
  | [] => give .null
  | [name] => moduleValue name
  | inner :: outer => do moduleItem (← innermost outer) inner

/-- Imports a module by its dotted name and gives what its name is bound to. -/
def importAs (item : Code.Alias) : Eval Value := do
  let path := Path.ofDotted item.path
  importModule path
  importModule (path.drop (path.length - 1))
  match item.as with
  | some _ => innermost path
  | none => moduleValue (Code.pathRoot item.path)

/-- Imports the modules inside a package that are asked for by name. One that is not there is left
for the complaint about its name. -/
def importInside (package : String) : List String → Eval Unit
  | [] => pure ()
  | name :: rest => do
    if (← act (attribute? (← moduleValue package) name)).isNone then
      match ← attempt (importModule (name :: Path.ofDotted package)) with
      | .ok _ => pure ()
      | .error raised =>
        if (← look (exceptionAt · raised.exception)).kind ≠ .moduleNotFoundError then throw raised
    importInside package rest

/-- Imports a module for items of it. -/
def importFor (package : String) (names : List String) : Eval Value := do
  importModule (Path.ofDotted package)
  if ← read fun s => s.isPackage package then importInside package names
  moduleValue package

/-- The names that are imported where all of a module is asked for. -/
def publicNames (m : Value) : Eval (List String) := do
  match ← act (attribute? m "__all__") with
  | none =>
    let attributes : Bindings ← look fun store => match m with
      | .ref a => ((store.get? a).map Object.attributes).getD []
      | _ => []
    return attributes.names.filter (·.toList.head? ≠ some '_')
  | some all =>
    let items ← act (drain all)
    items.mapM fun
      | .str name => give name
      | v => do
        let type ← look (·.typeName v)
        let owner := (← ownName? m).getD "?"
        fail (.of .typeError s!"Item in {owner}.__all__ must be str, not {type}")

/-! Imports that start from the package of the code. -/

def noParent : Fault :=
  .of .importError "attempted relative import with no known parent package"

/-- The package of code, by the names at its top. -/
def packageOf (globals : Bindings) : Eval String := do
  let known (name : String) := (globals.get? name).filter (!·.isNull)
  match known "__package__", known "__spec__" with
  | some (.str package), _ => return package
  | some _, _ => fail (.of .typeError "package must be a string")
  | none, some spec =>
    match ← act (getAttribute spec "parent") with
    | .str package => return package
    | _ => fail (.of .typeError "__spec__.parent must be a string")
  | none, none =>
    match globals.get? "__name__" with
    | none => fail (.of .keyError "'__name__' not in globals")
    | some (.str name) =>
      if globals.has "__path__" then return name
      else
        match Path.ofDotted name with
        | [_] => fail noParent
        | path => return Path.dotted (path.drop 1)
    | some _ => fail (.of .typeError "__name__ must be a string")

/-- The full name of a module that is as many levels up as there are points before it. -/
def absoluteName (globals : Bindings) (level : Nat) (name : String) : Eval String := do
  let package ← packageOf globals
  if package = "" then fail noParent
  else
    let path := Path.ofDotted package
    if path.length < level then
      fail (.of .importError "attempted relative import beyond top-level package")
    else
      let base := Path.dotted (path.drop (level - 1))
      return if name = "" then base else base ++ "." ++ name

end Eval

end Chunkwise.Execution
