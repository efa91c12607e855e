import Chunkwise.Proofs.Datum.Keys
import Chunkwise.Proofs.Import.Concatenation
import Chunkwise.Settings.Basic
import Chunkwise.Text.Sorted
import Mathlib.Data.List.Induction
import Mathlib.Data.List.Sort

/-!
Overriding settings again and again. Two mappings after one another come to one mapping of both, in
which the second has the last word and only the aliases of the first are kept beside its own.
-/
namespace Chunkwise.Settings
open Datum

variable {base : Settings} {entries first second : List (Datum × Datum)} {root value : Datum}
  {field : Field} {form : MapForm}

namespace Field

theorem ofKey?_key (field : Field) : ofKey? (.str field.key) = some field := by
  cases field <;> decide

theorem key_injective {field other : Field} (h : field.key = other.key) : field = other := by
  have heq := ofKey?_key field
  rw [h, ofKey?_key] at heq
  exact (Option.some.inj heq).symm

end Field

/-! What a mapping gives. -/

/-- What a mapping gives for a setting. -/
abbrev given (entries : List (Datum × Datum)) (field : Field) : Option Datum :=
  lookupKey entries (.str field.key)

/-- The entries of a mapping; null has none. -/
def aliasesOf : Datum → List (Datum × Datum)
  | .map _ entries => entries
  | _ => []

/-- The aliases that a mapping gives. -/
def givenAliases (entries : List (Datum × Datum)) : List (Datum × Datum) :=
  ((given entries .packageAliases).map aliasesOf).getD []

/-- A mapping of settings: its keys are settings, the addresses are a sequence, and the aliases are
a mapping or null. -/
structure Suitable (entries : List (Datum × Datum)) : Prop where
  keyed : WellKeyed entries
  known : ∀ entry ∈ entries, ∃ field : Field, entry.1 = .str field.key
  urls : ∀ value, given entries .scriptUrls = some value → ∃ items, value.iterate = .ok items
  aliases : ∀ value, given entries .packageAliases = some value →
    value = .null ∨ ∃ form aliases, value = .map form aliases ∧ WellKeyed aliases

/-- A value as it is kept for a setting. -/
def kept (base : Settings) (field : Field) (value : Datum) : Datum :=
  match field with
  | .scriptUrls => .tuple (value.items?.getD [])
  | .packageAliases => .dict (putAll base.aliasEntries (aliasesOf value))
  | _ => value

theorem suitable_nil : Suitable [] where
  keyed := wellKeyed_nil
  known _ h := absurd h List.not_mem_nil
  urls _ h := by cases h
  aliases _ h := by cases h

/-- The settings with what a mapping gives for them. -/
def overridden (base : Settings) (entries : List (Datum × Datum)) : Settings where
  get field := ((given entries field).map (base.kept field)).getD (base.get field)

theorem get_overridden (hurls : field ≠ .scriptUrls) (haliases : field ≠ .packageAliases) :
    (base.overridden entries).get field = (given entries field).getD (base.get field) := by
  have hkept : base.kept field = id := by
    cases field
    case scriptUrls => exact absurd rfl hurls
    case packageAliases => exact absurd rfl haliases
    all_goals rfl
  change ((given entries field).map (base.kept field)).getD _ = _
  rw [hkept, Option.map_id_apply]

/-- A mapping whose keys are settings is taken over entry by entry. -/
theorem override_of_known (hkeyed : WellKeyed entries)
    (hknown : ∀ entry ∈ entries, ∃ field : Field, entry.1 = .str field.key) :
    base.override (.map form entries) = base.applyEntries entries := by
  have hnone : ((entries.map (·.1)).filter fun key => (Field.ofKey? key).isNone) = [] := by
    rw [List.filter_eq_nil_iff, List.forall_mem_map]
    intro entry hentry
    obtain ⟨field, hfield⟩ := hknown entry hentry
    rw [hfield, Field.ofKey?_key]
    exact Bool.false_ne_true
  have hiterate : (Datum.map form entries).iterate = .ok (entries.map (·.1)) := rfl
  unfold override
  rw [hiterate]
  change (Datum.distinct (entries.map (·.1)) >>= _) = _
  rw [hkeyed.distinct_keys]
  change (sortKeys ((entries.map (·.1)).filter _) >>= _) = _
  rw [hnone]
  rfl

theorem overriding_scriptUrls (h : ∃ items, value.iterate = .ok items) :
    base.overriding .scriptUrls value = .ok (base.kept .scriptUrls value) := by
  obtain ⟨items, h⟩ := h
  unfold iterate at h
  split at h
  next items' hitems =>
    simp only [overriding, iterate, kept, hitems]
    rfl
  next => cases h

theorem overriding_packageAliases
    (h : value = .null ∨ ∃ form aliases, value = .map form aliases ∧ WellKeyed aliases) :
    base.overriding .packageAliases value = .ok (base.kept .packageAliases value) := by
  obtain rfl | ⟨form, aliases, rfl, -⟩ := h
  · rfl
  · cases aliases <;> rfl

/-- A mapping of settings is taken over. -/
theorem override_of_suitable (h : Suitable entries) :
    base.override (.map form entries) = .ok (base.overridden entries) := by
  have hsettings : ({ get := fun field =>
      match field with
      | .scriptUrls => (base.overridden entries).get .scriptUrls
      | .packageAliases => (base.overridden entries).get .packageAliases
      | field => (given entries field).getD (base.get field) } : Settings) =
      base.overridden entries := by
    refine congrArg Settings.mk (funext fun field => ?_)
    cases field
    case scriptUrls | packageAliases => rfl
    all_goals exact (get_overridden (by decide) (by decide)).symm
  rw [override_of_known h.keyed h.known, ← hsettings]
  -- both conversions come first and succeed
  cases hurls : given entries .scriptUrls <;> cases haliases : given entries .packageAliases
  all_goals simp only [applyEntries, overridden, hurls, haliases]
  case none.none => rfl
  case none.some aliases => rw [overriding_packageAliases (h.aliases _ haliases)]; rfl
  case some.none urls => rw [overriding_scriptUrls (h.urls _ hurls)]; rfl
  case some.some urls aliases =>
    rw [overriding_scriptUrls (h.urls _ hurls), overriding_packageAliases (h.aliases _ haliases)]
    rfl

/-! Two mappings. -/

/-- The aliases of two mappings as one, if any are given. -/
def combinedAliases : Option Datum → Option Datum → Option Datum
  | some earlier, some later => some (.dict (putAll (aliasesOf earlier) (aliasesOf later)))
  | earlier, later => later.or earlier

/-- Two mappings as one: the second has the last word, but aliases are taken from both. -/
def combined (first second : List (Datum × Datum)) : List (Datum × Datum) :=
  match combinedAliases (given first .packageAliases) (given second .packageAliases) with
  | some aliases => putEntry (putAll first second) (.str Field.packageAliases.key) aliases
  | none => putAll first second

theorem given_combined (hsecond : WellKeyed second) :
    given (combined first second) field =
      if field = .packageAliases then
        combinedAliases (given first .packageAliases) (given second .packageAliases)
      else (given second field).or (given first field) := by
  have hputAll : given (putAll first second) field =
      (given second field).or (given first field) := lookupKey_putAll hsecond
  unfold combined
  cases haliases : combinedAliases (given first .packageAliases) (given second .packageAliases) with
  | some aliases =>
    have hkey : (Datum.str Field.packageAliases.key).same (.str field.key) = true ↔
        field = .packageAliases := by
      rw [Datum.same_str]
      refine ⟨fun h => (Field.key_injective ?_).symm, fun h => h ▸ rfl⟩
      simpa using h
    rw [given, lookupKey_putEntry rfl]
    simp only [hkey]
    exact if_congr Iff.rfl rfl hputAll
  | none =>
    rw [hputAll]
    split
    next hfield =>
      subst hfield
      unfold combinedAliases at haliases
      split at haliases
      next => cases haliases
      next => exact haliases
    next => rfl

theorem Suitable.aliasesOf_keyed (h : Suitable entries)
    (hgiven : given entries .packageAliases = some value) : WellKeyed (aliasesOf value) := by
  obtain rfl | ⟨form, aliases, rfl, hkeyed⟩ := h.aliases value hgiven
  · exact wellKeyed_nil
  · exact hkeyed

theorem known_putEntry (h : ∀ entry ∈ entries, ∃ field : Field, entry.1 = .str field.key)
    (field : Field) :
    ∀ entry ∈ putEntry entries (.str field.key) value, ∃ field : Field, entry.1 = .str field.key := by
  have hkeys : ∀ key ∈ (putEntry entries (.str field.key) value).map (·.1),
      ∃ field : Field, key = .str field.key := by
    rw [keys_putEntry]
    intro key hkey
    rcases List.mem_append.mp hkey with hkey | hkey
    · obtain ⟨entry, hentry, rfl⟩ := List.mem_map.mp hkey
      exact h entry hentry
    · split at hkey
      next => cases hkey
      next => exact ⟨field, List.mem_singleton.mp hkey⟩
  exact fun entry hentry => hkeys _ (List.mem_map_of_mem hentry)

theorem known_putAll (hfirst : ∀ entry ∈ first, ∃ field : Field, entry.1 = .str field.key)
    (hsecond : ∀ entry ∈ second, ∃ field : Field, entry.1 = .str field.key) :
    ∀ entry ∈ putAll first second, ∃ field : Field, entry.1 = .str field.key := by
  induction second generalizing first with
  | nil => exact hfirst
  | cons entry rest ih =>
    obtain ⟨⟨field, hfield⟩, hrest⟩ := List.forall_mem_cons.mp hsecond
    rw [putAll_cons, hfield]
    exact ih (known_putEntry hfirst field) hrest

theorem Suitable.combined (hfirst : Suitable first) (hsecond : Suitable second) :
    Suitable (combined first second) where
  keyed := by
    have hputAll := wellKeyed_putAll hfirst.keyed hsecond.keyed.keys
    unfold Settings.combined
    split
    · exact wellKeyed_putEntry hputAll rfl
    · exact hputAll
  known := by
    have hputAll := known_putAll hfirst.known hsecond.known
    unfold Settings.combined
    split
    · exact known_putEntry hputAll _
    · exact hputAll
  urls value h := by
    rw [given_combined hsecond.keyed, if_neg (by decide)] at h
    rcases Option.or_eq_some_iff.mp h with h | ⟨-, h⟩
    · exact hsecond.urls value h
    · exact hfirst.urls value h
  aliases value h := by
    rw [given_combined hsecond.keyed, if_pos rfl] at h
    unfold combinedAliases at h
    split at h
    next earlier later hearlier hlater =>
      cases h
      exact .inr ⟨_, _, rfl, wellKeyed_putAll (hfirst.aliasesOf_keyed hearlier)
        (hsecond.aliasesOf_keyed hlater).keys⟩
    next =>
      rcases Option.or_eq_some_iff.mp h with h | ⟨-, h⟩
      · exact hsecond.aliases value h
      · exact hfirst.aliases value h

theorem Suitable.givenAliases_keyed (h : Suitable entries) : WellKeyed (givenAliases entries) := by
  unfold givenAliases
  cases hgiven : given entries .packageAliases with
  | none => exact wellKeyed_nil
  | some value => exact h.aliasesOf_keyed hgiven

theorem aliasEntries_overridden :
    (base.overridden entries).aliasEntries = putAll base.aliasEntries (givenAliases entries) := by
  unfold aliasEntries givenAliases
  simp only [overridden]
  cases given entries .packageAliases <;> rfl

/-- Overriding twice is overriding by both mappings as one. -/
theorem overridden_overridden (hfirst : Suitable first) (hsecond : Suitable second) :
    (base.overridden first).overridden second = base.overridden (combined first second) := by
  refine congrArg Settings.mk (funext fun field => ?_)
  rw [given_combined hsecond.keyed]
  by_cases hfield : field = .packageAliases
  · subst hfield
    rw [if_pos rfl]
    cases hearlier : given first .packageAliases with
    | none =>
      cases hlater : given second .packageAliases <;>
        simp [overridden, hearlier, combinedAliases, kept, aliasEntries]
    | some earlier =>
      cases hlater : given second .packageAliases with
      | none => simp [overridden, hearlier, combinedAliases]
      | some later =>
        have hputAll := @putAll_putAll base.aliasEntries _ _ (hfirst.aliasesOf_keyed hearlier)
          (hsecond.aliasesOf_keyed hlater).keys
        simp only [combinedAliases, Option.map_some, Option.getD_some, kept,
          aliasEntries_overridden, givenAliases, hearlier]
        exact congrArg Datum.dict hputAll.symm
  · rw [if_neg hfield]
    cases hlater : given second field
    · simp [overridden]
    · cases field <;> first | rfl | exact absurd rfl hfield

/-- An alias comes from the mapping that overrides, or else from the settings before. -/
theorem distribution_overridden (h : Suitable entries) (hroot : root.isKey = true) :
    (base.overridden entries).distribution root =
      .ok (((lookupKey (givenAliases entries) root).or
        (lookupKey base.aliasEntries root)).getD root) := by
  unfold distribution
  rw [aliasEntries_overridden, lookupKey_putAll h.givenAliases_keyed, hashed, unhashable?_of_isKey hroot]
  rfl

/-! Keys that are no settings. -/

/-- The keys of a mapping that are texts but no settings, in order. -/
def unknownKeys (entries : List (Datum × Datum)) : List String :=
  Text.sortedSet <| (entries.map (·.1)).filterMap fun
    | .str name => if (Field.ofKey? (.str name)).isNone then some name else none
    | _ => none

theorem less_texts (name other : String) :
    (Datum.str name).less (.str other) = .ok (decide (name < other)) := by
  have hlt : (compare name other == .lt) = decide (name < other) := by
    rw [Bool.eq_iff_iff, beq_iff_eq, decide_eq_true_eq, compare_lt_iff_lt]
  simp [Datum.less, Value.lessAtom?, Value.order?, hlt]

theorem insertKey_text {name : String} {names : List String} (h : name ∉ names) :
    insertKey (.str name) (names.map .str) = .ok ((Text.insertSorted name names).map .str) := by
  induction names with
  | nil => rfl
  | cons first rest ih =>
    rw [List.mem_cons, not_or] at h
    rw [List.map_cons, insertKey, less_texts, Text.insertSorted]
    by_cases hlt : name < first
    · simp only [hlt]
      rfl
    · simp only [hlt, h.1, ih h.2, decide_false]
      rfl

/-- Texts come in the order of their code points. -/
theorem sortKeys_texts {names : List String} (h : names.Nodup) :
    sortKeys (names.map .str) = .ok ((Text.sortedSet names).map .str) := by
  have hreverse : sortKeys (names.map .str) = .ok ((Text.sortedSet names.reverse).map .str) := by
    induction names using List.reverseRecOn with
    | nil => rfl
    | append_singleton names name ih =>
      obtain ⟨hnames, -, hname⟩ := List.nodup_append.mp h
      have hnew : name ∉ Text.sortedSet names.reverse := fun hmem =>
        hname name (by simpa using hmem) name (List.mem_singleton_self _) rfl
      have hlast : Text.sortedSet (names ++ [name]).reverse =
          Text.insertSorted name (Text.sortedSet names.reverse) := by
        rw [List.reverse_append]
        rfl
      have hsplit : sortKeys ((names ++ [name]).map .str) =
          sortKeys (names.map .str) >>= fun sorted => insertKey (.str name) sorted := by
        rw [List.map_append, sortKeys, List.foldlM_append]
        simp [sortKeys]
      rw [hsplit, ih hnames, hlast]
      exact insertKey_text hnew
  rw [hreverse, Text.sortedSet_congr fun name => List.mem_reverse]

/-- A mapping whose keys are texts. -/
structure TextKeyed (entries : List (Datum × Datum)) : Prop where
  keyed : WellKeyed entries
  texts : ∀ entry ∈ entries, ∃ name, entry.1 = .str name

theorem TextKeyed.exists_names (h : TextKeyed entries) :
    ∃ names : List String, names.Nodup ∧ entries.map (·.1) = names.map .str := by
  have hnames : ∀ keys : List Datum, (∀ key ∈ keys, ∃ name, key = .str name) →
      ∃ names : List String, keys = names.map .str := by
    intro keys hkeys
    induction keys with
    | nil => exact ⟨[], rfl⟩
    | cons key rest ih =>
      obtain ⟨⟨name, rfl⟩, hrest⟩ := List.forall_mem_cons.mp hkeys
      obtain ⟨names, rfl⟩ := ih hrest
      exact ⟨name :: names, rfl⟩
  obtain ⟨names, hkeys⟩ := hnames (entries.map (·.1)) (List.forall_mem_map.mpr h.texts)
  refine ⟨names, ?_, hkeys⟩
  have hdistinct := (wellKeyed_iff.mp h.keyed).2
  rw [hkeys, List.pairwise_map] at hdistinct
  refine hdistinct.imp fun {name other} hne heq => ?_
  rw [(Datum.same_str _ _).mpr (congrArg Datum.str heq)] at hne
  cases hne

/-- What is raised for keys that are no settings. -/
def unknownFault (names : List String) : Fault :=
  .of .valueError ("Unknown config keys: " ++ commaSeparated names)

theorem unknownKeys_eq {names : List String} (h : entries.map (·.1) = names.map .str) :
    unknownKeys entries =
      Text.sortedSet (names.filter fun name => (Field.ofKey? (.str name)).isNone) := by
  have hfilter := List.filterMap_eq_filter (p := fun name => (Field.ofKey? (.str name)).isNone)
  rw [unknownKeys, h, List.filterMap_map, ← hfilter]
  rfl

/-- Keys that are no settings are refused. -/
theorem override_of_unknown (h : TextKeyed entries) (hunknown : unknownKeys entries ≠ []) :
    base.override (.map form entries) = .error (unknownFault (unknownKeys entries)) := by
  obtain ⟨names, hnodup, hnames⟩ := h.exists_names
  have hfilter : (entries.map (·.1)).filter (fun key => (Field.ofKey? key).isNone) =
      (names.filter fun name => (Field.ofKey? (.str name)).isNone).map .str := by
    rw [hnames, List.filter_map]
    rfl
  have hiterate : (Datum.map form entries).iterate = .ok (entries.map (·.1)) := rfl
  have hsorted := sortKeys_texts (hnodup.filter fun name => (Field.ofKey? (.str name)).isNone)
  rw [← hfilter, ← unknownKeys_eq hnames] at hsorted
  have hnonempty : ¬ (((unknownKeys entries).map Datum.str).isEmpty) = true := by
    simpa using hunknown
  unfold override
  rw [hiterate]
  change (Datum.distinct (entries.map (·.1)) >>= _) = _
  rw [h.keyed.distinct_keys]
  change (sortKeys ((entries.map (·.1)).filter _) >>= _) = _
  rw [hsorted]
  change (if ¬ (((unknownKeys entries).map Datum.str).isEmpty) = true then _ else _) = _
  rw [if_pos hnonempty, Datum.joinTexts_texts]
  rfl

/-- Two mappings that override one after another come to one that holds what either gives, where the
second has the last word. -/
theorem override_composes (base : Settings) (form form' form'' : MapForm)
    (first second : List (Datum × Datum)) :
    (Suitable first → Suitable second → ∃ result,
      (base.override (.map form first) >>= fun s => s.override (.map form' second)) = .ok result ∧
      base.override (.map form'' (combined first second)) = .ok result ∧
      ∀ root : Datum, root.isKey = true → result.distribution root =
        .ok (((lookupKey (givenAliases second) root).or ((lookupKey (givenAliases first) root).or
          (lookupKey base.aliasEntries root))).getD root)) ∧
    base.override (.map form []) = .ok base ∧
    (TextKeyed first → unknownKeys first ≠ [] →
      (base.override (.map form first) >>= fun s => s.override (.map form' second)) =
        .error (unknownFault (unknownKeys first))) ∧
    (Suitable first → TextKeyed second → unknownKeys second ≠ [] →
      (base.override (.map form first) >>= fun s => s.override (.map form' second)) =
        .error (unknownFault (unknownKeys second))) := by
  refine ⟨fun hfirst hsecond => ⟨base.overridden (combined first second), ?_,
    override_of_suitable (hfirst.combined hsecond), fun root hroot => ?_⟩,
    override_of_suitable suitable_nil, fun hfirst h => ?_, fun hfirst hsecond h => ?_⟩
  · rw [override_of_suitable hfirst, ← overridden_overridden hfirst hsecond]
    exact override_of_suitable hsecond
  · rw [← overridden_overridden hfirst hsecond, distribution_overridden hsecond hroot,
      aliasEntries_overridden, lookupKey_putAll hfirst.givenAliases_keyed]
  · rw [override_of_unknown hfirst h]
    rfl
  · rw [override_of_suitable hfirst]
    exact override_of_unknown hsecond h

theorem override_composes_of_aliases :
    (∃ result,
      (default.override (.dict [(.str "package_aliases", .dict [(.str "x", .str "y"),
          (.str "PIL", .str "p")]), (.str "http_timeout", .int 10)]) >>= fun s =>
        s.override (.dict [(.str "package_aliases", .null), (.str "script_urls", .list [])])) =
          .ok result ∧
      result.distribution (.str "PIL") = .ok (.str "p") ∧
      result.distribution (.str "bs4") = .ok (.str "beautifulsoup4")) ∧
    (default.override (.dict [(.str "y", .null), (.str "filename", .null), (.str "x", .null)]) >>=
      fun s => s.override (.dict [])) = .error (unknownFault ["x", "y"]) := by
  have hfirst : Suitable [(.str "package_aliases", .dict [(.str "x", .str "y"),
      (.str "PIL", .str "p")]), (.str "http_timeout", .int 10)] := {
    keyed := ⟨by decide, by decide⟩
    known := by
      simp only [List.forall_mem_cons]
      exact ⟨⟨.packageAliases, rfl⟩, ⟨.httpTimeout, rfl⟩, fun _ h => absurd h List.not_mem_nil⟩
    urls := fun _ h => by cases h
    aliases := fun _ h => by
      cases h
      exact .inr ⟨_, _, rfl, ⟨by decide, by decide⟩⟩ }
  have hsecond : Suitable [(.str "package_aliases", .null), (.str "script_urls", .list [])] := {
    keyed := ⟨by decide, by decide⟩
    known := by
      simp only [List.forall_mem_cons]
      exact ⟨⟨.packageAliases, rfl⟩, ⟨.scriptUrls, rfl⟩, fun _ h => absurd h List.not_mem_nil⟩
    urls := fun _ h => by
      cases h
      exact ⟨_, rfl⟩
    aliases := fun _ h => by
      cases h
      exact .inl rfl }
  have htexts : TextKeyed [(.str "y", .null), (.str "filename", .null), (.str "x", .null)] := {
    keyed := ⟨by decide, by decide⟩
    texts := by simp }
  obtain ⟨result, htwice, -, hroots⟩ :=
    (override_composes default .dict .dict .dict _ _).1 hfirst hsecond
  refine ⟨⟨result, htwice, ?_, ?_⟩, ?_⟩
  · exact hroots (.str "PIL") rfl
  · exact hroots (.str "bs4") rfl
  · exact (override_composes default .dict .dict .dict _ _).2.2.1 htexts (by decide)

/-- A number is no setting, but that is not what is said of it. -/
theorem override_number_refused : ∃ fault,
    default.override (.dict [(.int 1, .int 2)]) = .error fault ∧ fault.kind = .typeError ∧
      fault.args = [.str "sequence item 0: expected str instance, int found"] :=
  ⟨_, rfl, rfl, rfl⟩

end Chunkwise.Settings
