/-!
The tokens of a settings file.
-/
namespace Chunkwise.Yaml

inductive Token where
  | directive
  | documentStart
  | documentEnd
  | blockSequence
  | blockMapping
  | blockEnd
  /-- The dash before an item. -/
  | entry
  | key
  | value
  | openSequence
  | closeSequence
  | openMapping
  | closeMapping
  | comma
  | anchor (name : String)
  | alias (name : String)
  | tag (text : String)
  /-- A text, and whether it stands without quotes. -/
  | scalar (text : String) (isPlain : Bool)
  deriving DecidableEq, Repr

end Chunkwise.Yaml
