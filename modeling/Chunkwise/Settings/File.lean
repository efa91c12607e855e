import Chunkwise.Fault.Own
import Chunkwise.Settings.Basic
import Chunkwise.Text.Lines
import Chunkwise.Yaml.Document

/-!
Settings from a file, which must hold a mapping of their names.
-/
namespace Chunkwise

/-- Why settings could not be taken from a file. -/
abbrev Settings.Refusal := Yaml.Refusal

/-- What can be found under a path. -/
inductive FileEntry where
  | missing
  | directory
  | text (content : String)
  deriving DecidableEq, Repr

/-- The text of a file, with a line feed for every line end. -/
def FileEntry.read (path : String) : FileEntry → Except Fault String
  | .missing => .error (.ofFile 2 "No such file or directory" path)
  | .directory => .error (.ofFile 21 "Is a directory" path)
  | .text content => .ok (String.ofList (Text.withLineFeeds content.toList))

namespace Settings

/-- Settings from the text of a file. An empty file changes nothing. -/
def ofText (path text : String) : Except Refusal Settings := do
  let v ← Yaml.document text.toList
  match if v.truth then v else .dict [] with
  | .map form entries => (Settings.default.override (.map form entries)).mapError .fault
  | _ => Yaml.refuse .valueError ("Config file " ++ path ++ " must contain a mapping")

/-- Settings from a file. -/
def load (path : String) (file : FileEntry) : Except Refusal Settings :=
  match file.read path with
  | .error fault => .error (.fault fault)
  | .ok text => ofText path text

end Settings

end Chunkwise
