import Chunkwise.Datum.Iterate
import Chunkwise.Datum.Text

/-!
The settings of an evaluator, and overriding them by a mapping. Values are taken as they are
given; only the addresses are made a tuple, and aliases are added to those that are there.
-/
namespace Chunkwise

/-- A setting. -/
inductive Settings.Field where
  | heavyDependency | rawBinding | utilsBinding | scriptUrls | adapterUrl | packageAliases
  | httpTimeout | filename
  deriving DecidableEq, Repr

namespace Settings

namespace Field

def all : List Field :=
  [.heavyDependency, .rawBinding, .utilsBinding, .scriptUrls, .adapterUrl, .packageAliases,
    .httpTimeout, .filename]

def key : Field → String
  | .heavyDependency => "heavy_dependency"
  | .rawBinding => "raw_binding"
  | .utilsBinding => "utils_binding"
  | .scriptUrls => "script_urls"
  | .adapterUrl => "adapter_url"
  | .packageAliases => "package_aliases"
  | .httpTimeout => "http_timeout"
  | .filename => "filename"

def ofKey? (key : Datum) : Option Field :=
  match key with
  | .str name => all.find? (·.key = name)
  | _ => none

end Field

end Settings

/-- A value for each setting. -/
structure Settings where
  get : Settings.Field → Datum

namespace Settings

def defaultScriptUrls : List String :=
  ["https://veehz.github.io/torch/vendor/gpu-browser.min.js",
    "https://veehz.github.io/torch/build/browser/torch.browser.umd.js"]

/-- Packages whose distribution has another name. -/
def defaultAliases : List (String × String) :=
  [("sklearn", "scikit-learn"), ("PIL", "pillow"), ("cv2", "opencv-python"), ("yaml", "pyyaml"),
    ("bs4", "beautifulsoup4")]

def default : Settings where
  get
    | .heavyDependency => .str "torch"
    | .rawBinding => .str "js_torch"
    | .utilsBinding => .str "torch_utils"
    | .scriptUrls => .tuple (defaultScriptUrls.map .str)
    | .adapterUrl => .str "https://veehz.github.io/torch/examples/pyodide/bridge.py"
    | .packageAliases => .dict (defaultAliases.map fun (name, dist) => (.str name, .str dist))
    | .httpTimeout => .null
    | .filename => .str "<chunk>"

instance : Inhabited Settings := ⟨default⟩

def set (settings : Settings) (field : Field) (value : Datum) : Settings where
  get f := if f = field then value else settings.get f

@[simp] theorem get_set (settings : Settings) (field f : Field) (value : Datum) :
    (settings.set field value).get f = if f = field then value else settings.get f := rfl

/-- The aliases as entries; they are always a mapping. -/
def aliasEntries (settings : Settings) : List (Datum × Datum) :=
  match settings.get .packageAliases with
  | .map _ entries => entries
  | _ => []

/-- Puts a key behind all that it does not come before. -/
def insertKey (key : Datum) : List Datum → Except Fault (List Datum)
  | [] => .ok [key]
  | other :: rest => do
    if ← key.less other then return key :: other :: rest
    else return other :: (← insertKey key rest)

/-- Puts keys in order. Only keys of one sort have one. -/
def sortKeys (keys : List Datum) : Except Fault (List Datum) :=
  keys.foldlM (fun sorted key => insertKey key sorted) []

/-- The value of a setting given as `value`. -/
def overriding (base : Settings) (field : Field) (value : Datum) : Except Fault Datum :=
  match field with
  | .scriptUrls => value.iterate.map .tuple
  | .packageAliases =>
    (if value.truth then value.entries else .ok []).map fun entries =>
      .dict (entries.foldl (fun made entry => putEntry made entry.1 entry.2) base.aliasEntries)
  | _ => .ok value

/-- Overrides one setting after another; both conversions come before any other. -/
def applyEntries (base : Settings) (entries : List (Datum × Datum)) : Except Fault Settings := do
  let given (field : Field) : Option Datum := lookupKey entries (.str field.key)
  let urls ← match given .scriptUrls with
    | some value => base.overriding .scriptUrls value
    | none => pure (base.get .scriptUrls)
  let aliases ← match given .packageAliases with
    | some value => base.overriding .packageAliases value
    | none => pure (base.get .packageAliases)
  return { get := fun field =>
    match field with
    | .scriptUrls => urls
    | .packageAliases => aliases
    | field => (given field).getD (base.get field) }

/-- A generator gives its items only once. -/
def entriesAfterKeys (data : Datum) : Except Fault (List (Datum × Datum)) :=
  match data with
  | .seq .generator _ => .ok []
  | data => data.entries

/-- Overrides settings by a mapping, all of whose keys must be settings. -/
def override (base : Settings) (data : Datum) : Except Fault Settings := do
  let keys ← Datum.distinct (← data.iterate)
  let unknown ← sortKeys (keys.filter fun key => (Field.ofKey? key).isNone)
  if ¬ unknown.isEmpty then
    let names ← Datum.joinTexts 0 unknown
    throw (.of .valueError s!"Unknown config keys: {commaSeparated names}")
  applyEntries base (← entriesAfterKeys data)

/-- The distribution of a package: its alias or its own name. -/
def distribution (settings : Settings) (root : Datum) : Except Fault Datum := do
  root.hashed
  return (lookupKey settings.aliasEntries root).getD root

/-- The text that a setting is shown as. -/
def text (settings : Settings) (field : Field) : String :=
  (settings.get field).shown

/-- The addresses of the scripts. -/
def scriptUrls (settings : Settings) : List Datum :=
  match settings.get .scriptUrls with
  | .seq _ items => items
  | _ => []

/-- The aliases of names that are texts. -/
def aliases (settings : Settings) : List (String × Datum) :=
  settings.aliasEntries.filterMap fun
    | (.str name, dist) => some (name, dist)
    | _ => none

end Settings

end Chunkwise
