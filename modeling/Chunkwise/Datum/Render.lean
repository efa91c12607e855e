import Chunkwise.Number.Digits
import Chunkwise.Text.Hex
import Chunkwise.Text.Quoted

/-!
The text of data and of faults. An object may refuse to be shown, and then everything that
holds it cannot be shown either.
-/
namespace Chunkwise
open Chunkwise.Text Chunkwise.Decimal

def quotedText (s : String) : String :=
  String.ofList (quoted s.toList)

def commaSeparated (parts : List String) : String :=
  ", ".intercalate parts

/-- The last segment of a path. -/
def baseName (path : String) : String :=
  String.ofList (path.toList.reverse.takeWhile (· ≠ '/')).reverse

/-- The items of a sequence between the brackets of its form. -/
def SeqForm.enclose (form : SeqForm) (parts : List String) : String :=
  let inner := commaSeparated parts
  match form with
  | .list | .listSub => "[" ++ inner ++ "]"
  | .tuple | .tupleSub => if parts.length = 1 then "(" ++ inner ++ ",)" else "(" ++ inner ++ ")"
  | .set => if parts = [] then "set()" else "\x7b" ++ inner ++ "\x7d"
  | .frozenSet => if parts = [] then "frozenset()" else "frozenset(\x7b" ++ inner ++ "\x7d)"
  | .generator => "<generator>"

/-- What stands for a sequence inside itself. -/
def SeqForm.again : SeqForm → String
  | .list | .listSub => "[...]"
  | .tuple | .tupleSub => "(...)"
  | .set => "set(...)"
  | .frozenSet => "frozenset(...)"
  | .generator => "<generator>"

def MapForm.enclose (form : MapForm) (parts : List String) : String :=
  let inner := "\x7b" ++ commaSeparated parts ++ "\x7d"
  match form with
  | .dict | .hollow => inner
  | .view => "mappingproxy(" ++ inner ++ ")"

/-- What stands for a mapping inside itself. -/
def MapForm.again (form : MapForm) : String :=
  form.enclose ["..."]

namespace Builtin

def render (f : Builtin) : String :=
  if f.isType then s!"<class '{f.name}'>"
  else if f.isFunction then s!"<function {f.name}>"
  else s!"<built-in function {f.name}>"

end Builtin

/-- The text that shows a value that is no object. -/
def Value.render : Value → Except Fault String
  | .null => .ok "None"
  | .bool b => .ok (if b then "True" else "False")
  | .int n => integerText n
  | .float x => .ok x.show
  | .str s => .ok (quotedText s)
  | .bytes data => .ok ("b" ++ String.ofList (quotedBytes data))
  | .range start stop step => do
    let first ← integerText start
    let last ← integerText stop
    if step = 1 then return s!"range({first}, {last})"
    else
      let stride ← integerText step
      return s!"range({first}, {last}, {stride})"
  | .kind k => .ok ("<class '" ++ k.qualifiedName ++ "'>")
  | .builtin f => .ok f.render
  | .tensorClass => .ok "<class 'Tensor'>"
  | .leave name => .ok s!"Use {name}() or Ctrl-D (i.e. EOF) to exit"
  | .method .. => .ok "<bound method>"
  | .ref _ => .ok "<object>"

mutual

/-- The text that shows a datum inside another. -/
def Datum.render : Datum → Except Fault String
  | .leaf v => v.render
  | .bytes data => .ok ("bytearray(b" ++ String.ofList (quotedBytes data) ++ ")")
  | .seq form items =>
    if form = .generator then .ok (form.enclose [])
    else
      match Datum.renderAll items with
      | .ok parts => .ok (form.enclose parts)
      | .error fault => .error fault
  | .map form entries =>
    match Datum.renderEntries entries with
    | .ok parts => .ok (form.enclose parts)
    | .error fault => .error fault
  | .plain => .ok "<opaque>"
  | .convertible type .. => .ok ("<" ++ type ++ " object>")
  | .tensor data requiresGrad =>
    match data.render, requiresGrad.render with
    | .ok d, .ok g => .ok ("Tensor(" ++ d ++ ", requires_grad=" ++ g ++ ")")
    | .error fault, _ | _, .error fault => .error fault
  | .object _ text => .ok text
  | .badRepr message => .error (.make .valueError [message])
  | .fault fault => fault.render
  | .again text => .ok text

def Datum.renderAll : List Datum → Except Fault (List String)
  | [] => .ok []
  | v :: rest =>
    match v.render with
    | .error fault => .error fault
    | .ok part => (Datum.renderAll rest).map (part :: ·)

def Datum.renderEntries : List (Datum × Datum) → Except Fault (List String)
  | [] => .ok []
  | (k, v) :: rest =>
    match k.render with
    | .error fault => .error fault
    | .ok key =>
      match v.render with
      | .error fault => .error fault
      | .ok value => (Datum.renderEntries rest).map ((key ++ ": " ++ value) :: ·)

/-- A fault as the call that makes it. -/
def Fault.render : Fault → Except Fault String
  | { kind, args, .. } =>
    match Datum.renderAll args with
    | .ok parts => .ok (kind.name ++ "(" ++ commaSeparated parts ++ ")")
    | .error fault => .error fault

end

mutual

/-- The number of containers around the innermost part of a datum. -/
def Datum.height : Datum → Nat
  | .seq form items => if form = .generator then 0 else Datum.heightAll items + 1
  | .map _ entries => Datum.heightEntries entries + 1
  | .tensor data requiresGrad => max data.height requiresGrad.height + 1
  | .fault fault => fault.height
  | _ => 0

def Datum.heightAll : List Datum → Nat
  | [] => 0
  | v :: rest => max v.height (Datum.heightAll rest)

def Datum.heightEntries : List (Datum × Datum) → Nat
  | [] => 0
  | (k, v) :: rest => max (max k.height v.height) (Datum.heightEntries rest)

def Fault.height : Fault → Nat
  | { args, .. } => Datum.heightAll args + 1

end

end Chunkwise
