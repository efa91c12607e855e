import Chunkwise.Yaml.Token

/-!
The nodes of a settings file, read from its tokens.
-/
namespace Chunkwise.Yaml

inductive Node where
  | scalar (tag : Option String) (text : String) (isPlain : Bool)
  | sequence (tag : Option String) (items : List Node)
  | mapping (tag : Option String) (entries : List (Node × Node))
  deriving Inhabited

/-- The node where none is written. -/
def Node.missing : Node := .scalar none "" true

/-- The tokens to come and the nodes that have names. -/
structure Position where
  tokens : List Token
  named : List (String × Node) := []

/-- Reading nodes; nothing comes of it where the file is malformed. -/
abbrev Reading (α : Type) := StateT Position Option α

namespace Reading

def peek : Reading (Option Token) := do
  return (← get).tokens.head?

def skip : Reading Unit :=
  modify fun p => { p with tokens := p.tokens.drop 1 }

def malformed {α : Type} : Reading α := fun _ => none

def take (token : Token) : Reading Unit := do
  if (← peek) = some token then skip else malformed

/-- The next token is one of these, or there is none. -/
def isOneOf (tokens : List Token) : Reading Bool := do
  match ← peek with
  | none => return true
  | some token => return token ∈ tokens

/-- The name and the tag before a node, in either order. -/
def properties : Reading (Option String × Option String) := do
  match ← peek with
  | some (.anchor name) =>
    skip
    match ← peek with
    | some (.tag text) => skip; return (some name, some text)
    | _ => return (some name, none)
  | some (.tag text) =>
    skip
    match ← peek with
    | some (.anchor name) => skip; return (some name, some text)
    | _ => return (none, some text)
  | _ => return (none, none)

/-- Keeps a node under its name, which no other node may have. -/
def keep (name : Option String) (node : Node) : Reading Node := do
  match name with
  | none => return node
  | some name =>
    if ((← get).named.lookup name).isSome then malformed
    else
      modify fun p => { p with named := (name, node) :: p.named }
      return node

/-- A node unless one of these tokens comes first. -/
def nodeUnless (tokens : List Token) (node : Reading Node) : Reading Node := do
  if ← isOneOf tokens then return .missing else node

/-- The items of a sequence in a block, behind its dashes. -/
def blockItems (item : Reading Node) : Nat → List Node → Reading (List Node)
  | 0, _ => malformed
  | n + 1, read => do
    if (← peek) = some .entry then
      skip
      let node ← nodeUnless [.entry, .blockEnd] item
      blockItems item n (node :: read)
    else
      take .blockEnd
      return read.reverse

/-- The items of a sequence that is indented no further than the key before it. -/
def flushItems (item : Reading Node) : Nat → List Node → Reading (List Node)
  | 0, _ => malformed
  | n + 1, read => do
    if (← peek) = some .entry then
      skip
      let node ← nodeUnless [.entry, .key, .value, .blockEnd] item
      flushItems item n (node :: read)
    else return read.reverse

/-- The entries of a mapping in a block. -/
def blockEntries (item : Reading Node) : Nat → List (Node × Node) → Reading (List (Node × Node))
  | 0, _ => malformed
  | n + 1, read => do
    if (← peek) = some .key then
      skip
      let key ← nodeUnless [.key, .value, .blockEnd] item
      let value ←
        if (← peek) = some .value then do
          skip
          nodeUnless [.key, .value, .blockEnd] item
        else pure .missing
      blockEntries item n ((key, value) :: read)
    else
      take .blockEnd
      return read.reverse

/-- A value behind a key inside brackets. -/
def flowValue (item : Reading Node) (closing : Token) : Reading Node := do
  if (← peek) = some .value then
    skip
    nodeUnless [.comma, closing] item
  else return .missing

/-- An item inside brackets: a node or a mapping of one entry. -/
def flowItem (item : Reading Node) : Reading Node := do
  if (← peek) = some .key then
    skip
    let key ← nodeUnless [.value, .comma, .closeSequence] item
    let value ← flowValue item .closeSequence
    return .mapping none [(key, value)]
  else item

def flowItems (item : Reading Node) : Nat → List Node → Reading (List Node)
  | 0, _ => malformed
  | n + 1, read => do
    if (← peek) = some .closeSequence then
      skip
      return read.reverse
    else
      if !read.isEmpty then take .comma
      if (← peek) = some .closeSequence then
        skip
        return read.reverse
      else
        let node ← flowItem item
        flowItems item n (node :: read)

/-- An entry inside braces. A node without a value is a key. -/
def flowEntry (item : Reading Node) : Reading (Node × Node) := do
  if (← peek) = some .key then
    skip
    let key ← nodeUnless [.value, .comma, .closeMapping] item
    let value ← flowValue item .closeMapping
    return (key, value)
  else return (← item, .missing)

def flowEntries (item : Reading Node) : Nat → List (Node × Node) → Reading (List (Node × Node))
  | 0, _ => malformed
  | n + 1, read => do
    if (← peek) = some .closeMapping then
      skip
      return read.reverse
    else
      if !read.isEmpty then take .comma
      if (← peek) = some .closeMapping then
        skip
        return read.reverse
      else
        let entry ← flowEntry item
        flowEntries item n (entry :: read)

/-- A node. In a block it may be one itself, and behind a key it may be a sequence that is
indented no further. -/
def node : Nat → Bool → Bool → Reading Node
  | 0, _, _ => malformed
  | n + 1, inBlock, behindKey => do
    match ← peek with
    | some (.alias name) =>
      skip
      match (← get).named.lookup name with
      | some node => return node
      | none => malformed
    | _ =>
      let (name, tag) ← properties
      match ← peek with
      | some .entry =>
        if behindKey then keep name (.sequence tag (← flushItems (node n true false) n []))
        else if name.isSome || tag.isSome then keep name (.scalar tag "" true)
        else malformed
      | some (.scalar text isPlain) =>
        skip
        keep name (.scalar tag text isPlain)
      | some .openSequence =>
        skip
        keep name (.sequence tag (← flowItems (node n false false) n []))
      | some .openMapping =>
        skip
        keep name (.mapping tag (← flowEntries (node n false false) n []))
      | some .blockSequence =>
        if inBlock then
          skip
          keep name (.sequence tag (← blockItems (node n true false) n []))
        else malformed
      | some .blockMapping =>
        if inBlock then
          skip
          keep name (.mapping tag (← blockEntries (node n true true) n []))
        else malformed
      | _ => if name.isSome || tag.isSome then keep name (.scalar tag "" true) else malformed

def skipAll (token : Token) : Nat → Reading Unit
  | 0 => pure ()
  | n + 1 => do
    if (← peek) = some token then
      skip
      skipAll token n
    else pure ()

/-- The only document of a file, if it has one. -/
def document (n : Nat) : Reading (Option Node) := do
  if (← peek).isNone then return none
  else
    let hasStart := (← peek) ∈ [some .directive, some .documentStart]
    if hasStart then
      skipAll .directive n
      take .documentStart
    let root ←
      if hasStart then nodeUnless [.directive, .documentStart, .documentEnd] (node n true false)
      else node n true false
    skipAll .documentEnd n
    if (← peek).isSome then malformed
    return some root

end Reading

/-- The root of a file; none if it is malformed, and no root if it is empty. -/
def root? (tokens : List Token) : Option (Option Node) :=
  ((Reading.document (4 * tokens.length + 4)).run { tokens := tokens }).map (·.1)

end Chunkwise.Yaml
