import Chunkwise.Number.Arithmetic
import Chunkwise.Store.Iterate

/-!
Operators on values: arithmetic, joining and repeating of sequences, and comparisons. An operator
that updates a list, bytes or a set changes the object itself.
-/
namespace Chunkwise

namespace Code

def BinaryOp.symbol : BinaryOp → String
  | .add => "+"
  | .sub => "-"
  | .mul => "*"
  | .div => "/"
  | .floorDiv => "//"
  | .mod => "%"
  | .pow => "** or pow()"

/-- The symbol of the operator that updates its target. -/
def BinaryOp.updateSymbol : BinaryOp → String
  | .pow => "**="
  | op => op.symbol ++ "="

def UnaryOp.symbol : UnaryOp → String
  | .neg => "-"
  | .plus => "+"
  | .invert => "~"
  | .not => "not"

end Code

namespace Store

def outOfRange {α : Type} (what : String) : Except Fault α :=
  .error (.of .indexError s!"{what} out of range")

def unfittingIndex : String :=
  "cannot fit 'int' into an index-sized integer"

/-- An integer that a machine word can hold. -/
def fitsWord (n : Int) : Bool :=
  -(wordLimit : Int) ≤ n && n < wordLimit

def unsupported {α : Type} (store : Store) (symbol : String) (l r : Value) : Except Fault α :=
  typeFault (s!"unsupported operand type(s) for {symbol}: '{store.typeName l}' and " ++
    s!"'{store.typeName r}'")

/-- A sequence that operators join and repeat. -/
inductive Chain where
  | text (s : String)
  | bytes (mutable : Bool) (data : List UInt8)
  | elements (isList : Bool) (items : Array Value)

def chain? (store : Store) : Value → Option Chain
  | .str s => some (.text s)
  | .bytes data => some (.bytes false data)
  | .ref a =>
    match store.nature? a with
    | some (.seq form items) =>
      if form.isList then some (.elements true items)
      else if form.isTuple then some (.elements false items)
      else none
    | some (.bytes data) => some (.bytes true data)
    | _ => none
  | _ => none

def Chain.length : Chain → Nat
  | .text s => s.length
  | .bytes _ data => data.length
  | .elements _ items => items.size

/-- The value of a chain; lists, tuples and bytes that can be changed are new objects. -/
def Chain.value : Chain → Action Value
  | .text s => pure (.str s)
  | .bytes false data => pure (.bytes data)
  | .bytes true data => Action.make { nature := .bytes data }
  | .elements true items => Action.make { nature := .seq .list items }
  | .elements false items => Action.make { nature := .seq .tuple items }

/-- A sequence repeated; a negative number counts as zero. -/
def repeated {α : Type} (items : List α) (n : Int) : List α :=
  (List.replicate n.toNat items).flatten

def Chain.repeat (c : Chain) (n : Int) : Except Fault Chain :=
  let size := c.length * n.toNat
  if wordLimit ≤ size then
    match c with
    | .text _ => overflowFault "repeated string is too long"
    | .bytes false _ => overflowFault "repeated bytes are too long"
    | _ => .error (.make .memoryError [])
  else if memoryLimit ≤ size then .error (.make .memoryError [])
  else .ok (match c with
    | .text s => .text (String.ofList (repeated s.toList n))
    | .bytes mutable data => .bytes mutable (repeated data n)
    | .elements isList items => .elements isList (repeated items.toList n).toArray)

/-- The number of times that a sequence is to be repeated. -/
def repeatCount (store : Store) (v : Value) : Except Fault Int :=
  match v.int? with
  | none => typeFault s!"can't multiply sequence by non-int of type '{store.typeName v}'"
  | some n => if fitsWord n then .ok n else overflowFault unfittingIndex

/-- A sequence times a number. -/
def times (c : Chain) (count : Value) : Action Value := do
  (← Action.ofExcept (c.repeat (← Action.checking (·.repeatCount count)))).value

/-- Two values joined: sequences are joined with their own kind only. -/
def joined (symbol : String) (l r : Value) : Action Value := do
  let store ← Action.reading id
  let name := store.typeName r
  match store.chain? l, store.chain? r with
  | some (.text s), some (.text t) => return .str (s ++ t)
  | some (.text _), _ =>
    Action.fail (.of .typeError s!"can only concatenate str (not \"{name}\") to str")
  | some (.bytes mutable a), some (.bytes _ b) => Chain.value (.bytes mutable (a ++ b))
  | some (.bytes ..), _ =>
    Action.fail (.of .typeError s!"can't concat {name} to {store.typeName l}")
  | some (.elements isList a), some (.elements isList' b) =>
    if isList = isList' then Chain.value (.elements isList (a ++ b)) else refuse isList name
  | some (.elements isList _), _ => refuse isList name
  | none, _ => Action.checking (·.unsupported symbol l r)
where
  refuse (isList : Bool) (name : String) : Action Value :=
    let own := if isList then "list" else "tuple"
    Action.fail (.of .typeError s!"can only concatenate {own} (not \"{name}\") to {own}")

/-- What is in the first set and not in the second. -/
def without (store : Store) (xs ys : Array Value) : Array Value :=
  xs.filter fun x => !ys.any fun y => store.sameKey y x

/-- A binary operator, with the sign to name in a fault. -/
def binary (symbol : String) (op : Code.BinaryOp) (l r : Value) : Action Value := do
  match l.number?, r.number? with
  | some x, some y => Action.ofExcept (numberArithmetic op x y)
  | _, _ =>
    let store ← Action.reading id
    match op with
    | .add => joined symbol l r
    | .mul =>
      match store.chain? l, store.chain? r with
      | some c, _ => times c r
      | none, some c => times c l
      | none, none => Action.ofExcept (store.unsupported symbol l r)
    | .sub =>
      match store.natureOf l, store.natureOf r with
      | some (.seq f xs), some (.seq g ys) =>
        if f.isSet && g.isSet then Action.make { nature := .seq f (store.without xs ys) }
        else Action.ofExcept (store.unsupported symbol l r)
      | _, _ => Action.ofExcept (store.unsupported symbol l r)
    | _ => Action.ofExcept (store.unsupported symbol l r)

/-- A binary operator that may change its left operand, whose value it then is. -/
def update (op : Code.BinaryOp) (l r : Value) : Action Value := do
  let store ← Action.reading id
  match op, l, store.natureOf l with
  | .add, .ref a, some (.seq form items) =>
    if form.isList then
      let more ← drain r
      Action.setNature a (.seq form (items ++ more))
      return l
    else binary op.updateSymbol op l r
  | .mul, .ref a, some (.seq form items) =>
    if form.isList then
      let count ← Action.checking (·.repeatCount r)
      match ← Action.ofExcept ((Chain.elements true items).repeat count) with
      | .elements _ items => Action.setNature a (.seq form items)
      | _ => pure ()
      return l
    else binary op.updateSymbol op l r
  | .add, .ref a, some (.bytes data) =>
    match store.bytes? r with
    | some more =>
      Action.setNature a (.bytes (data ++ more))
      return l
    | none =>
      Action.fail (.of .typeError s!"can't concat {store.typeName r} to bytearray")
  | .mul, .ref a, some (.bytes data) =>
    let count ← Action.checking (·.repeatCount r)
    match ← Action.ofExcept ((Chain.bytes true data).repeat count) with
    | .bytes _ data => Action.setNature a (.bytes data)
    | _ => pure ()
    return l
  | .sub, .ref a, some (.seq .set xs) =>
    match store.natureOf r with
    | some (.seq form ys) =>
      if form.isSet then
        Action.setNature a (.seq .set (store.without xs ys))
        return l
      else binary op.updateSymbol op l r
    | _ => binary op.updateSymbol op l r
  | op, l, _ => binary op.updateSymbol op l r

/-- A unary operator. -/
def unary (store : Store) (op : Code.UnaryOp) (v : Value) : Except Fault Value :=
  match op, v.number? with
  | .not, _ => .ok (.bool (!store.truth v))
  | .neg, some (.inl n) => .ok (.int (-n))
  | .plus, some (.inl n) => .ok (.int n)
  | .invert, some (.inl n) => .ok (.int (-n - 1))
  | .neg, some (.inr x) => .ok (.float x.neg)
  | .plus, some (.inr x) => .ok (.float x)
  | op, _ => typeFault s!"bad operand type for unary {op.symbol}: '{store.typeName v}'"

/-! Comparisons. -/

/-- A text occurs in another, or bytes in others. -/
def occursIn {α : Type} [BEq α] (part : List α) : List α → Bool
  | [] => part.isEmpty
  | c :: rest => part.isPrefixOf (c :: rest) || occursIn part rest

/-- A value is among those that a walk still gives; the walk goes no further than needed. -/
def among (v : Value) : Nat → Cursor → Action Bool
  | 0, _ => pure false
  | n + 1, cursor => do
    match ← cursor.next with
    | none => return false
    | some (x, cursor) =>
      if ← Action.checking (·.sameItem x v) then return true else among v n cursor

/-- An integer is in a range. -/
def inRange (start stop step n : Int) : Bool :=
  let between := if 0 < step then start ≤ n && n < stop else stop < n && n ≤ start
  between && (n - start) % step == 0

/-- Bytes, or a single one, are in others. -/
def bytesContain (store : Store) (data : List UInt8) (v : Value) : Except Fault Bool :=
  match v.int?, store.bytes? v with
  | some n, _ =>
    if 0 ≤ n ∧ n < 256 then .ok (data.any fun b => (b.toNat : Int) = n)
    else .error (.of .valueError "byte must be in range(0, 256)")
  | none, some part => .ok (occursIn part data)
  | none, none => typeFault s!"a bytes-like object is required, not '{store.typeName v}'"

/-- A value is among those of another. -/
def contained (v container : Value) : Action Bool := do
  let store ← Action.reading id
  match container, v, store.natureOf container with
  | .str t, .str s, _ => return occursIn s.toList t.toList
  | .str _, v, _ =>
    Action.fail (.of .typeError
      s!"'in <string>' requires string as left operand, not {store.typeName v}")
  | .bytes data, v, _ | _, v, some (.bytes data) => Action.ofExcept (store.bytesContain data v)
  | _, v, some (.map _ entries) =>
    Action.ofExcept (store.hashed v)
    return (store.lookupKey entries v).isSome
  | .range start stop step, v, _ =>
    match v.int? with
    | some n => return inRange start stop step n
    | none =>
      let n := rangeLength start stop step
      among v n (.range start step n)
  | container, v, nature =>
    match nature with
    | some (.seq .set _) | some (.seq .frozenSet _) => Action.ofExcept (store.hashed v)
    | _ => pure ()
    match store.cursor? container with
    | some cursor => among v memoryLimit cursor
    | none =>
      Action.fail (.of .typeError
        s!"argument of type '{store.typeName container}' is not iterable")

/-- Two values are one and the same. All empty tuples are one. -/
def identical (store : Store) (v w : Value) : Bool :=
  match store.natureOf v, store.natureOf w with
  | some (.seq .tuple xs), some (.seq .tuple ys) => decide (v = w) || xs.isEmpty && ys.isEmpty
  | _, _ => decide (v = w)

/-- A comparison of two values. -/
def compared (op : Code.Comparison) (l r : Value) : Action Bool :=
  match op with
  | .eq => Action.checking (·.same l r)
  | .ne => (!·) <$> Action.checking (·.same l r)
  | .isSame => Action.reading (·.identical l r)
  | .isNotSame => Action.reading fun store => !store.identical l r
  | .isIn => contained l r
  | .isNotIn => (!·) <$> contained l r
  | op => Action.checking (·.ordered op l r)

end Store

end Chunkwise
