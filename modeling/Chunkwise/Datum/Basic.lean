import Chunkwise.Value.Bindings

/-!
Data as finite trees: what settings hold, what the host is given and what is shown of values. A
fault as data has left the code that raised it; it carries the places that it passed through,
outermost first.
-/
namespace Chunkwise

mutual

inductive Datum where
  /-- A value that is all there is to it, or an object that only its owner looks into. -/
  | leaf (v : Value)
  /-- Bytes that can be changed. -/
  | bytes (data : List UInt8)
  | seq (form : SeqForm) (items : List Datum)
  | map (form : MapForm) (entries : List (Datum × Datum))
  /-- An object without attributes. -/
  | plain
  /-- An object that may convert itself, and may be iterable. -/
  | convertible (type : String) (toHost toList : Option (Conversion Datum))
      (items : Option (List Datum))
  | tensor (data requiresGrad : Datum)
  /-- Any other object, by the name of its type and its text. -/
  | object (type text : String)
  /-- An object whose text cannot be had. -/
  | badRepr (message : Datum)
  | fault (fault : Fault)
  /-- A container inside itself, by the text that stands for it there. -/
  | again (text : String)

structure Fault where
  kind : Fault.Kind
  args : List Datum := []
  detail : Option Detail := none
  /-- What the faults of some classes hold beside their arguments. -/
  members : List (String × Datum) := []
  trace : List Place := []
  notes : List String := []
  cause : Option Fault := none

/-- What the faults of the evaluator itself know. -/
inductive Detail where
  /-- The packages asked for and what the installer wrote. -/
  | resolution (packages : List String) (output : String)
  /-- The status of the response that ended a bootstrap. -/
  | loading (status : Option Int)
  | fetch (url : String) (status : Int)
  /-- The line and the column that failed. -/
  | execution (mark : Option (Datum × Datum))

end

instance : Inhabited Datum := ⟨.leaf .null⟩
instance : Inhabited Fault := ⟨{ kind := .exception }⟩

namespace Datum

@[match_pattern] abbrev null : Datum := .leaf .null
@[match_pattern] abbrev bool (b : Bool) : Datum := .leaf (.bool b)
@[match_pattern] abbrev int (n : Int) : Datum := .leaf (.int n)
@[match_pattern] abbrev str (s : String) : Datum := .leaf (.str s)
@[match_pattern] abbrev list (items : List Datum) : Datum := .seq .list items
@[match_pattern] abbrev tuple (items : List Datum) : Datum := .seq .tuple items
@[match_pattern] abbrev dict (entries : List (Datum × Datum)) : Datum := .map .dict entries

def isNull : Datum → Bool
  | .null => true
  | _ => false

/-- The integer that a datum is, where a truth value counts as one. -/
def int? : Datum → Option Int
  | .leaf v => v.int?
  | _ => none

/-- The name of a datum's type. -/
def typeName : Datum → String
  | .leaf v => v.typeName
  | .bytes _ => "bytearray"
  | .seq form _ => form.typeName
  | .map form _ => form.typeName
  | .plain => "Opaque"
  | .convertible type .. | .object type _ => type
  | .tensor .. => "Tensor"
  | .badRepr _ => "BadRepr"
  | .fault f => f.kind.name
  | .again _ => "object"

/-- An empty, zero or null datum is false and any other is true. -/
def truth : Datum → Bool
  | .leaf v =>
    match v with
    | .null => false
    | .bool b => b
    | .int n => n != 0
    | .float x => !x.isInt 0
    | .str s => s != ""
    | .bytes data => !data.isEmpty
    | .range start stop step => if 0 < step then start < stop else stop < start
    | _ => true
  | .bytes data => !data.isEmpty
  | .seq .generator _ => true
  | .seq _ items => !items.isEmpty
  | .map _ entries => !entries.isEmpty
  | _ => true

end Datum

namespace Fault

/-- The fault on its way out of a place. -/
def passing (place : Place) (f : Fault) : Fault :=
  { f with trace := place :: f.trace }

/-- The fault raised on account of another. -/
def causedBy (f cause : Fault) : Fault :=
  { f with cause := some cause }

/-- A fault with arguments that was not raised yet. -/
def make (kind : Kind) (args : List Datum) : Fault :=
  { kind := kind, args := args }

/-- A fault with one text as its argument. -/
def of (kind : Kind) (message : String) : Fault :=
  make kind [.str message]

/-- What a fault holds under a name. -/
def member? (f : Fault) (name : String) : Option Datum :=
  f.members.lookup name

end Fault

end Chunkwise
