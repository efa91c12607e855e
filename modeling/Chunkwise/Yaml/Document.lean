import Chunkwise.Datum.Iterate
import Chunkwise.Yaml.Node
import Chunkwise.Yaml.Scalar
import Chunkwise.Yaml.Token.Lexer

/-!
The value that a settings file stands for.
-/
namespace Chunkwise.Yaml

/-- The beginning that the tags of the standard kinds have in full. -/
def standardTag : String :=
  "tag:yaml.org,2002:"

/-- The name of a standard kind, if the tag is one. -/
def standardName? (tag : String) : Option String :=
  let t := tag.toList
  let full := "!<".toList ++ standardTag.toList
  if "!!".toList.isPrefixOf t then some (String.ofList (t.drop 2))
  else if full.isPrefixOf t ∧ t.getLast? = some '>' then
    some (String.ofList ((t.drop full.length).dropLast))
  else none

/-- The kind of text that a tag names. -/
def kindOfTag? (tag : String) : Option Kind :=
  let names := [("null", Kind.null), ("bool", .bool), ("int", .int), ("float", .float),
    ("timestamp", .timestamp), ("str", .str), ("merge", .merge), ("value", .default)]
  (standardName? tag).bind (names.lookup ·)

/-- What a text is taken for under a tag. The bare tag makes a quoted text a plain one. -/
def scalarKind? (tag : Option String) (text : String) (isPlain : Bool) : Option Kind :=
  match tag with
  | none => some (if isPlain then kindOf text.toList else .str)
  | some "!" => some (kindOf text.toList)
  | some tag => kindOfTag? tag

/-- The node stands for the entries of another mapping. -/
def Node.isMerge : Node → Bool
  | .scalar tag text isPlain => scalarKind? tag text isPlain = some .merge
  | _ => false

/-- The kinds of collections. A set is written as a mapping, whose keys it has. -/
inductive Shape where
  | list | mapping | set
  deriving DecidableEq, Repr

/-- The kind of a collection, which its tag may name. -/
def shapeOf? (own : Shape) (tag : Option String) : Option Shape :=
  match tag with
  | none | some "!" => some own
  | some tag =>
    let names := [("seq", Shape.list), ("map", .mapping), ("set", .set)]
    (standardName? tag).bind (names.lookup ·)

/-- The entries that a node brings into a mapping: of a mapping, or of several, of which the first
count most. -/
def mergedFrom (flat : List (Node × Node) → Except Refusal (List (Node × Node))) :
    Node → Except Refusal (List (Node × Node))
  | .mapping _ entries => flat entries
  | .sequence _ items => do
    return (← items.mapM fun
      | .mapping _ entries => flat entries
      | _ => .error .malformed).reverse.flatten
  | .scalar .. => .error .malformed

/-- The entries of a mapping behind those that are merged into it, to a depth. -/
def flatEntries : Nat → List (Node × Node) → Except Refusal (List (Node × Node))
  | 0, entries => .ok entries
  | n + 1, entries => do
    let merged ← (entries.filter (·.1.isMerge)).mapM fun entry =>
      mergedFrom (flatEntries n) entry.2
    return merged.flatten ++ entries.filter (!·.1.isMerge)

/-- The value of a key. The sign for a default is a text there. -/
def keyKind (kind : Kind) : Kind :=
  if kind = .default then .str else kind

/-- The mapping of entries: the keys must be hashable, and the last of equal keys counts. -/
def mappingOf (values : List (Datum × Datum)) : Except Refusal (List (Datum × Datum)) :=
  if values.all fun entry => entry.1.unhashable?.isNone then .ok (entriesOf values)
  else .error .malformed

/-- The value of a node, to a depth. -/
def Node.value (isKey : Bool) : Nat → Node → Except Refusal Datum
  | 0, _ => .error .malformed
  | n + 1, node =>
    match node with
    | .scalar tag text isPlain =>
      match scalarKind? tag text isPlain with
      | some kind => scalarValue (if isKey then keyKind kind else kind) text
      | none => .error .malformed
    | .sequence tag items =>
      match shapeOf? .list tag with
      | some .list => do return .list (← items.mapM (Node.value false n))
      | _ => .error .malformed
    | .mapping tag entries => do
      let shape := shapeOf? .mapping tag
      if shape ≠ some .mapping ∧ shape ≠ some .set then .error .malformed
      else
        let values ← (← flatEntries n entries).mapM fun (key, item) => do
          let k ← Node.value true n key
          return (k, ← Node.value false n item)
        let known ← mappingOf values
        return if shape = some .set then .seq .set (known.map (·.1)) else .dict known

mutual

/-- How deep a node is. -/
def Node.height : Node → Nat
  | .scalar .. => 1
  | .sequence _ items => heightOfAll items + 1
  | .mapping _ entries => heightOfEntries entries + 1

def heightOfAll : List Node → Nat
  | [] => 0
  | node :: rest => max node.height (heightOfAll rest)

def heightOfEntries : List (Node × Node) → Nat
  | [] => 0
  | (key, item) :: rest => max (max key.height item.height) (heightOfEntries rest)

end

/-- The value of a file; an empty one has the value nothing. -/
def document (text : List Char) : Except Refusal Datum :=
  match (tokens? text).bind root? with
  | none => .error .malformed
  | some none => .ok .null
  | some (some root) => root.value false root.height

end Chunkwise.Yaml
