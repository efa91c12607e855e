import Chunkwise.Import.Chunk
import Chunkwise.Proofs.Text.Pieces

/-!
The packages that a chunk asks for. All that is found is cut out of a line: a root is trimmed and
free of commas, points and comments. It is a name where a `from` line names it; of an import list
it is whatever an item begins with, so that another statement behind the name stays with it.
-/
namespace Chunkwise.Import
open Text

variable {heavy line list t : List Char}

/-! What a line names is part of it. -/

theorem afterKeyword?_isSuffix {keyword : String} {rest : List Char}
    (h : afterKeyword? keyword t = some rest) : rest <:+ t := by
  simp only [afterKeyword?, Option.bind_eq_bind, Option.bind_eq_some_iff] at h
  obtain ⟨behind, hbehind, h⟩ := h
  split at h
  · obtain rfl := Option.some.inj h
    rw [← List.append_eq_of_isPrefixOf?_eq_some hbehind]
    exact (trimStart_isSuffix behind).trans (List.suffix_append _ _)
  · simp at h

theorem importList?_isInfix (h : importList? line = some list) : list <:+: line ∧ '\n' ∉ list := by
  simp only [importList?, Option.bind_eq_bind, Option.bind_eq_some_iff] at h
  obtain ⟨body, hbody, h⟩ := h
  split at h
  · simp at h
  · obtain ⟨hlist, hn⟩ := singleLine?_isPrefix h
    have hline := (afterKeyword?_isSuffix hbody).trans (trimStart_isSuffix line)
    exact ⟨hlist.isInfix.trans hline.isInfix, hn⟩

theorem mem_fromModule? {path : List Char} (h : fromModule? line = some path) :
    path ≠ [] ∧ ∀ c ∈ path, isWord c = true ∨ c = '.' := by
  simp only [fromModule?, Option.bind_eq_bind, Option.bind_eq_some_iff] at h
  obtain ⟨body, -, h⟩ := h
  split at h
  · simp at h
  next hpath =>
    simp only [Option.bind_eq_some_iff] at h
    obtain ⟨tail, -, h⟩ := h
    split at h
    · obtain rfl := Option.some.inj h
      refine ⟨fun hnil => hpath (.inl hnil), fun c hc => ?_⟩
      simpa using List.mem_takeWhile_imp hc
    · simp at h

/-- What leaves an item with its alias are word characters and blanks. -/
theorem withoutAlias_append (item : List Char) :
    ∃ gone, item = withoutAlias item ++ gone ∧
      ∀ c ∈ gone, isWord c = true ∨ isBlank c = true := by
  have hkept : ∃ gone, item = item ++ gone ∧ ∀ c ∈ gone, isWord c = true ∨ isBlank c = true :=
    ⟨[], by simp⟩
  simp only [withoutAlias]
  split
  · exact hkept
  split
  · next s a rest hbefore =>
    split
    · next has =>
      -- the item read backwards: the new name, blanks, `sa`, blanks, the rest
      let name := item.reverse.takeWhile isWord
      let before := item.reverse.dropWhile isWord
      have hitem : item.reverse =
          name ++ before.takeWhile isBlank ++ [s, a] ++ rest.takeWhile isBlank ++
            rest.dropWhile isBlank := by
        calc item.reverse = name ++ before := List.takeWhile_append_dropWhile.symm
          _ = name ++ (before.takeWhile isBlank ++ before.dropWhile isBlank) := by
            rw [List.takeWhile_append_dropWhile (p := isBlank)]
          _ = name ++ (before.takeWhile isBlank ++ s :: a :: rest) := by rw [hbefore]
          _ = _ := by simp
      have hs : isWord s = true := by
        obtain rfl | rfl | rfl := has.1 <;> decide +kernel
      have ha : isWord a = true := by
        obtain rfl | rfl := has.2.1 <;> decide
      refine
        ⟨(name ++ before.takeWhile isBlank ++ [s, a] ++ rest.takeWhile isBlank).reverse, ?_, ?_⟩
      · rw [← List.reverse_append, ← hitem, List.reverse_reverse]
      · intro c hc
        simp only [List.mem_reverse, List.mem_append, List.mem_cons, List.not_mem_nil,
          or_false] at hc
        obtain ((hc | hc) | rfl | rfl) | hc := hc
        · exact .inl (List.mem_takeWhile_imp hc)
        · exact .inr (List.mem_takeWhile_imp hc)
        · exact .inl hs
        · exact .inl ha
        · exact .inr (List.mem_takeWhile_imp hc)
    · exact hkept
  · exact hkept

theorem withoutAlias_isPrefix (item : List Char) : withoutAlias item <+: item := by
  obtain ⟨gone, hgone, -⟩ := withoutAlias_append item
  exact ⟨gone, hgone.symm⟩

/-- A character that is neither of a word nor a blank stays, and all before it. -/
theorem prefix_withoutAlias {item s : List Char} {c : Char} (hw : isWord c = false)
    (hb : isBlank c = false) (h : s ++ [c] <+: item) : s ++ [c] <+: withoutAlias item := by
  obtain ⟨gone, hgone, hchars⟩ := withoutAlias_append item
  obtain ⟨more, hmore⟩ := h
  obtain ⟨inner, hinner, -⟩ | ⟨inner, hinner, hrest⟩ :=
    List.append_eq_append_iff.mp (hmore.trans hgone)
  · exact ⟨inner, hinner.symm⟩
  · rcases List.eq_nil_or_concat inner with rfl | ⟨front, last, rfl⟩
    · exact ⟨[], by simpa using hinner⟩
    · have hlast : c = last := by
        rw [List.concat_eq_append, ← List.append_assoc] at hinner
        exact (List.append_inj_right' hinner rfl |> List.cons.inj).1
      have := hchars c (by simp [hrest, hlast])
      simp [hw, hb] at this

/-! The roots of a line and of a chunk. -/

/-- The names of a list's items. -/
def listed (list : List Char) : List (List Char) :=
  ((list.splitOn ',').map trim).filter (· ≠ []) |>.map withoutAlias

/-- The first segment of a path. -/
def segment (path : List Char) : List Char :=
  trim (path.takeWhile (· ≠ '.'))

theorem ofPath?_eq_package {path : List Char} {root : String} :
    ofPath? path = some (.package root) ↔
      path.head? ≠ some '.' ∧ segment path ≠ [] ∧ root.toList = segment path := by
  have hroot (t : List Char) : String.ofList t = root ↔ root.toList = t := by
    rw [← String.toList_inj, String.toList_ofList, eq_comm]
  unfold ofPath?
  split
  · simp [*]
  · change (if segment path = [] then none else
      some (Declaration.package (String.ofList (segment path)))) = _ ↔ _
    split <;> simp [*]

theorem ofList_eq (list : List Char) : ofList list = (listed list).filterMap ofPath? := by
  simp only [ofList, listed, List.filterMap_map, List.filterMap_filter]
  congr 1
  funext part
  by_cases h : trim part = [] <;> simp [h]

/-- A path that a line imports: the name of an item of its list, or its one module. -/
inductive Names (line : List Char) (path : List Char) : Prop where
  | item {list : List Char} (hlist : importList? (withoutComment line) = some list)
      (hpath : path ∈ listed list)
  | module (hlist : importList? (withoutComment line) = none)
      (hpath : fromModule? (withoutComment line) = some path)

theorem mem_declarations (h : isHeavyLine heavy line = false) {root : String} :
    Declaration.package root ∈ declarations heavy line ↔
      ∃ path, Names line path ∧ ofPath? path = some (.package root) := by
  simp only [declarations, h, Bool.false_eq_true, if_false]
  cases hlist : importList? (withoutComment line) with
  | some list =>
    simp only [ofList_eq, List.mem_filterMap]
    constructor
    · rintro ⟨path, hpath, hroot⟩
      exact ⟨path, .item hlist hpath, hroot⟩
    · rintro ⟨path, ⟨hlist', hpath⟩ | ⟨hnone, -⟩, hroot⟩
      · obtain rfl := Option.some.inj (hlist.symm.trans hlist')
        exact ⟨path, hpath, hroot⟩
      · simp [hlist] at hnone
  | none =>
    simp only [Option.mem_toList, Option.bind_eq_some_iff]
    constructor
    · rintro ⟨path, hpath, hroot⟩
      exact ⟨path, .module hlist hpath, hroot⟩
    · rintro ⟨path, ⟨hlist', -⟩ | ⟨-, hpath⟩, hroot⟩
      · simp [hlist] at hlist'
      · exact ⟨path, hpath, hroot⟩

/-- A package is wanted unless it is the heavy library. -/
theorem mem_filterMap_wanted? {declarations : List Declaration} {root : String} :
    root ∈ declarations.filterMap (·.wanted? heavy) ↔
      root.toList ≠ heavy ∧ .package root ∈ declarations := by
  have hwanted (d : Declaration) :
      d.wanted? heavy = some root ↔ d = .package root ∧ root.toList ≠ heavy := by
    cases d with
    | package name =>
      simp only [Declaration.wanted?, Option.ite_none_left_eq_some, Option.some.injEq,
        Declaration.package.injEq]
      constructor
      · rintro ⟨hne, rfl⟩
        exact ⟨rfl, hne⟩
      · rintro ⟨rfl, hne⟩
        exact ⟨hne, rfl⟩
    | relative | heavy => simp [Declaration.wanted?]
  simp [List.mem_filterMap, hwanted, and_comm]

/-- The roots of a chunk are what its lines declare, but for the heavy library. -/
theorem mem_scan_roots {heavy chunk root : String} :
    root ∈ (scan heavy chunk).roots ↔ root ≠ heavy ∧
      ∃ line ∈ keptLines heavy.toList chunk.toList,
        .package root ∈ declarations heavy.toList line := by
  simp only [scan, wanted, mem_sortedSet, List.mem_flatMap, mem_filterMap_wanted?, ne_eq,
    String.toList_inj]
  constructor
  · rintro ⟨line, hline, hne, hroot⟩
    exact ⟨hne, line, hline, hroot⟩
  · rintro ⟨hne, line, hline, hroot⟩
    exact ⟨line, hline, hne, hroot⟩

/-- The roots of a chunk are the first segments of the paths that its lines name, but for the heavy
library. -/
theorem mem_roots {heavy chunk root : String} :
    root ∈ (scan heavy chunk).roots ↔ root ≠ heavy ∧
      ∃ line ∈ keptLines heavy.toList chunk.toList, ∃ path, Names line path ∧
        path.head? ≠ some '.' ∧ segment path ≠ [] ∧ root.toList = segment path := by
  have hkept (line : List Char) (hline : line ∈ keptLines heavy.toList chunk.toList) :
      isHeavyLine heavy.toList line = false := by
    simpa using (List.mem_filter.mp hline).2
  simp only [mem_scan_roots, ← ofPath?_eq_package]
  refine and_congr_right fun _ => exists_congr fun line => and_congr_right fun hline => ?_
  exact mem_declarations (hkept line hline)

/-! What can be a root. -/

theorem mem_listed {path : List Char} :
    path ∈ listed list ↔
      ∃ part ∈ list.splitOn ',', trim part ≠ [] ∧ path = withoutAlias (trim part) := by
  simp only [listed, List.mem_map, List.mem_filter, decide_eq_true_eq]
  constructor
  · rintro ⟨item, ⟨⟨part, hpart, rfl⟩, hne⟩, rfl⟩
    exact ⟨part, hpart, hne, rfl⟩
  · rintro ⟨part, hpart, hne, rfl⟩
    exact ⟨trim part, ⟨⟨part, hpart, rfl⟩, hne⟩, rfl⟩

theorem segment_isInfix (path : List Char) : segment path <:+: path :=
  (trim_isInfix _).trans (List.takeWhile_prefix _).isInfix

theorem notMem_segment (path : List Char) : '.' ∉ segment path := by
  intro h
  have := List.mem_takeWhile_imp ((trim_isInfix _).subset h)
  simp at this

/-- An item's name has no comma, number sign or line feed. -/
theorem notMem_of_names {path : List Char} (h : Names line path) :
    ',' ∉ path ∧ '#' ∉ path ∧ '\n' ∉ path := by
  cases h with
  | @item list hlist hpath =>
    obtain ⟨part, hpart, -, rfl⟩ := mem_listed.mp hpath
    obtain ⟨hsub, hn⟩ := importList?_isInfix hlist
    have hname : withoutAlias (trim part) <:+: part :=
      (withoutAlias_isPrefix _).isInfix.trans (trim_isInfix part)
    have hpiece := infix_of_mem_splitOn hpart
    refine ⟨fun h => notMem_of_mem_splitOn hpart (hname.subset h), fun h => ?_,
      fun h => hn (hpiece.subset (hname.subset h))⟩
    have := List.mem_takeWhile_imp (hsub.subset (hpiece.subset (hname.subset h)))
    simp at this
  | module _ hpath =>
    have hword := (mem_fromModule? hpath).2
    refine ⟨fun h => ?_, fun h => ?_, fun h => ?_⟩ <;>
    · have := hword _ h
      revert this
      decide

/-- A path that begins with no blank begins with its first segment. -/
theorem segment_isPrefix {path : List Char} (h : ∀ c, path.head? = some c → isBlank c = false) :
    segment path <+: path := by
  have hfirst : path.takeWhile (· ≠ '.') <+: path := List.takeWhile_prefix _
  rw [segment, trim_eq_trimEnd fun c hc => h c (head?_of_isPrefix hfirst hc)]
  exact (trimEnd_isPrefix _).trans hfirst

theorem head?_item {part : List Char} {c : Char} (h : (withoutAlias (trim part)).head? = some c) :
    isBlank c = false :=
  head?_trim (head?_of_isPrefix (withoutAlias_isPrefix _) h)

/-- A root of a chunk is no blank text, has no blanks around it and no comma, point, number sign
or line feed, and is not the heavy library. Unless it is a name, it stands in an import list, where
it begins an item. -/
theorem roots_trimmed {heavy chunk root : String} (h : root ∈ (scan heavy chunk).roots) :
    root ≠ "" ∧ root ≠ heavy ∧ trim root.toList = root.toList ∧
      (∀ c ∈ root.toList, c ≠ ',' ∧ c ≠ '.' ∧ c ≠ '#' ∧ c ≠ '\n') ∧
      ((∀ c ∈ root.toList, isWord c = true) ∨
        ∃ line ∈ keptLines heavy.toList chunk.toList, ∃ list,
          importList? (withoutComment line) = some list ∧
          ∃ part ∈ list.splitOn ',', root.toList <+: withoutAlias (trim part)) := by
  obtain ⟨hne, line, hline, path, hpath, hpoint, hempty, hroot⟩ := mem_roots.mp h
  obtain ⟨hcomma, hnumber, hfeed⟩ := notMem_of_names hpath
  have hin := (segment_isInfix path).subset
  refine ⟨?_, hne, ?_, ?_, ?_⟩
  · rintro rfl
    exact hempty hroot.symm
  · rw [hroot, segment, trim_trim]
  · rw [hroot]
    intro c hc
    refine ⟨?_, ?_, ?_, ?_⟩ <;> rintro rfl
    · exact hcomma (hin hc)
    · exact notMem_segment path hc
    · exact hnumber (hin hc)
    · exact hfeed (hin hc)
  · rw [hroot]
    cases hpath with
    | @item list hlist hitem =>
      obtain ⟨part, hpart, -, rfl⟩ := mem_listed.mp hitem
      exact .inr ⟨line, hline, list, hlist, part, hpart, segment_isPrefix fun _ => head?_item⟩
    | module hlist hmodule =>
      refine .inl fun c hc => ((mem_fromModule? hmodule).2 c (hin hc)).resolve_right ?_
      rintro rfl
      exact notMem_segment path hc

theorem roots_trimmed_of_alias :
    "numpy" ∈ (scan "torch" "import numpy as np").roots ∧ "numpy" ≠ "torch" :=
  have h : "numpy" ∈ (scan "torch" "import numpy as np").roots := by decide +kernel
  ⟨h, (roots_trimmed h).2.1⟩

/-! A statement behind an import. -/

section Behind

variable {name rest : List Char}

theorem head?_word (hname : name ≠ []) (hword : ∀ c ∈ name, isWord c = true) (rest : List Char) :
    ∀ c, (name ++ rest).head? = some c → isBlank c = false := by
  intro c hc
  cases name with
  | nil => exact absurd rfl hname
  | cons first more =>
    obtain rfl : first = c := by simpa using hc
    exact isBlank_of_isWord (hword first (by simp))

theorem withoutComment_import (hword : ∀ c ∈ name, isWord c = true) :
    withoutComment ("import ".toList ++ name ++ ';' :: rest) =
      "import ".toList ++ name ++ ';' :: withoutComment rest := by
  have hfree : ∀ c ∈ "import ".toList ++ name ++ [';'], decide (c ≠ '#') = true := by
    intro c hc
    rw [decide_eq_true_eq]
    rintro rfl
    simp only [List.mem_append] at hc
    obtain (hc | hc) | hc := hc
    · revert hc
      decide
    · have := hword '#' hc
      revert this
      decide
    · simp at hc
  simpa [withoutComment] using List.takeWhile_append_of_pos hfree

/-- The list of an `import` is all that stands behind, whatever it is. -/
theorem importList?_import (hname : name ≠ []) (hword : ∀ c ∈ name, isWord c = true)
    (hrest : '\n' ∉ rest) :
    importList? ("import ".toList ++ name ++ ';' :: rest) = some (name ++ ';' :: rest) := by
  have hbody : afterKeyword? "import" (trimStart ("import ".toList ++ name ++ ';' :: rest)) =
      some (name ++ ';' :: rest) := by
    have hstart : trimStart ("import ".toList ++ name ++ ';' :: rest) =
        "import".toList ++ ' ' :: (name ++ ';' :: rest) := by
      rw [trimStart_eq_self (by simp; decide)]
      simp
    have hbehind : trimStart (' ' :: (name ++ ';' :: rest)) = name ++ ';' :: rest := by
      rw [trimStart, List.dropWhile_cons_of_pos (by decide)]
      exact trimStart_eq_self (head?_word hname hword _)
    rw [hstart, afterKeyword?, List.isPrefixOf?_eq_some_iff_append_eq.mpr rfl]
    simp [hbehind]
    decide
  have hline : '\n' ∉ name ++ ';' :: rest := by
    intro hc
    simp only [List.mem_append, List.mem_cons] at hc
    obtain hc | hc | hc := hc
    · have := hword '\n' hc
      revert this
      decide
    · simp at hc
    · exact hrest hc
  simp only [importList?, hbody, Option.bind_eq_bind, Option.bind_some, singleLine?_eq_self hline]
  simp

/-- An import is not told from a statement behind it: what is asked for is not the module before
the semicolon, and begins with it and the semicolon. -/
theorem root_of_semicolon {heavy : List Char} (hname : name ≠ [])
    (hword : ∀ c ∈ name, isWord c = true) (hrest : '\n' ∉ rest)
    (hheavy : isHeavyLine heavy ("import ".toList ++ name ++ ';' :: rest) = false) :
    ∃ root, Declaration.package root ∈
        declarations heavy ("import ".toList ++ name ++ ';' :: rest) ∧
      name ++ [';'] <+: root.toList := by
  let list := name ++ ';' :: withoutComment rest
  have hlist :
      importList? (withoutComment ("import ".toList ++ name ++ ';' :: rest)) = some list := by
    rw [withoutComment_import hword]
    exact importList?_import hname hword fun h => hrest ((List.takeWhile_sublist _).subset h)
  have hfree {d : Char} (hd : isWord d = false) (hne : ';' ≠ d) :
      ∀ c ∈ name ++ [';'], c ≠ d := by
    rintro c hc rfl
    simp only [List.mem_append, List.mem_singleton] at hc
    obtain hc | rfl := hc
    · simp [hword c hc] at hd
    · exact hne rfl
  -- the first item of the list, its name and the first segment of that begin with the same text
  obtain ⟨more, hpieces, -⟩ := splitOnP_eq_cons (p := (· == ',')) list
  let part := list.takeWhile fun c => !(c == ',')
  have hpart : name ++ [';'] <+: part :=
    prefix_takeWhile (by simp [list]) fun c hc => by simpa using hfree (by decide) (by decide) c hc
  have htrim : name ++ [';'] <+: trim part := by
    rw [trim_eq_trimEnd fun c hc => ?_]
    · exact prefix_trimEnd (by decide) hpart
    · obtain ⟨behind, hbehind⟩ := hpart
      exact head?_word hname hword ([';'] ++ behind) c (by simpa [← hbehind] using hc)
  let path := withoutAlias (trim part)
  have hpath : name ++ [';'] <+: path := prefix_withoutAlias (by decide) (by decide) htrim
  have hsegment : name ++ [';'] <+: segment path := by
    have hfirst : name ++ [';'] <+: path.takeWhile (· ≠ '.') :=
      prefix_takeWhile hpath fun c hc => by
        simpa using hfree (by decide) (by decide) c hc
    rw [segment, trim_eq_trimEnd fun c hc =>
      head?_item (head?_of_isPrefix (List.takeWhile_prefix _) hc)]
    exact prefix_trimEnd (by decide) hfirst
  refine ⟨String.ofList (segment path),
    (mem_declarations hheavy).mpr ⟨path, .item hlist ?_, ?_⟩, ?_⟩
  · refine mem_listed.mpr ⟨part, ?_, ?_, rfl⟩
    · rw [List.splitOn_eq_splitOnP, hpieces]
      exact List.mem_cons_self
    · rintro hnil
      simp [hnil] at htrim
  · rw [ofPath?_eq_package]
    refine ⟨?_, ?_, by simp⟩
    · intro hpoint
      have hhead := head?_of_isPrefix hpath (List.head?_eq_some_head (by simp))
      rw [hpoint, Option.some.injEq] at hhead
      exact hfree (by decide) (by decide) _ (List.head_mem _) hhead.symm
    · rintro hnil
      simp [hnil] at hsegment
  · simpa using hsegment

end Behind

/-- The text behind a semicolon is asked for with the module before it. -/
theorem roots_with_statement :
    ¬∀ heavy chunk root : String, root ∈ (scan heavy chunk).roots →
      ∀ c ∈ root.toList, isWord c = true := by
  intro h
  have := h "torch" "import a; print(1)" "a; print(1)" (by decide +kernel) ';' (by decide +kernel)
  revert this
  decide +kernel

end Chunkwise.Import
