import Chunkwise.Proofs.Import.Statements

/-!
What asks for no package: the heavy library, in whatever form a statement imports it, and the modules
beside a chunk's own. What is asked for is declared by a line of the chunk.
-/
namespace Chunkwise.Import
open Text

variable {heavy line list t : List Char} {root path : String}

/-! The roots of a chunk are declared by its lines. -/

theorem mem_filterMap_package? {declarations : List Declaration} :
    root ∈ declarations.filterMap (·.package?) ↔ .package root ∈ declarations := by
  have hpackage (d : Declaration) : d.package? = some root ↔ d = .package root := by
    cases d <;> simp [Declaration.package?]
  simp [List.mem_filterMap, hpackage]

/-- A plain import of the heavy library declares no package. -/
theorem isHeavyLine_of_package (h : .package root ∈ declarations heavy line) :
    isHeavyLine heavy line = false := by
  refine Bool.eq_false_iff.mpr fun hheavy => ?_
  simp [declarations, hheavy] at h

theorem mem_scanSpelling_roots {spelling chunk : String} :
    root ∈ (scanSpelling spelling chunk).roots ↔
      ∃ line ∈ keptLines spelling.toList chunk.toList,
        .package root ∈ declarations spelling.toList line := by
  simp only [scanSpelling, mem_sortedSet, List.mem_flatMap, mem_filterMap_package?]

/-! A package is no module beside the chunk's own. -/

theorem declares_cut {d : Declaration} (h : d ∈ declarations heavy line)
    (hlight : isHeavyLine heavy line = false) : ∃ path, ofPath? path = some d := by
  simp only [declarations, hlight, Bool.false_eq_true, if_false] at h
  split at h
  · simp only [ofList_eq, List.mem_filterMap] at h
    obtain ⟨path, -, hpath⟩ := h
    exact ⟨path, hpath⟩
  · simp only [Option.mem_toList, Option.bind_eq_some_iff] at h
    obtain ⟨path, -, hpath⟩ := h
    exact ⟨path, hpath⟩

/-- The text of a module beside the chunk's own begins with a point. -/
theorem head?_of_relative (h : .relative path ∈ declarations heavy line) :
    path.toList.head? = some '.' := by
  have hlight : isHeavyLine heavy line = false := by
    refine Bool.eq_false_iff.mpr fun hheavy => ?_
    simp [declarations, hheavy] at h
  obtain ⟨cut, hcut⟩ := declares_cut h hlight
  unfold ofPath? at hcut
  split at hcut
  next hpoint =>
    cases hcut
    rwa [String.toList_ofList]
  next =>
    dsimp only at hcut
    split at hcut <;> cases hcut

/-- There is no point in a package's name. -/
theorem notMem_of_package (h : .package root ∈ declarations heavy line) : '.' ∉ root.toList := by
  obtain ⟨cut, hcut⟩ := declares_cut h (isHeavyLine_of_package h)
  rw [(ofPath?_eq_package.mp hcut).2.2]
  exact notMem_segment cut

theorem ne_of_relative {heavy' line' : List Char} (h : .package root ∈ declarations heavy line)
    (hpath : .relative path ∈ declarations heavy' line') : root ≠ path := by
  rintro rfl
  exact notMem_of_package h (List.mem_of_head? (head?_of_relative hpath))

/-! Statements that import the heavy library. -/

namespace Statement

/-- What a statement imports is the heavy library or a part of it, or a module beside the chunk's
own. -/
def Exempt (heavy : List Char) : Statement → Prop
  | .list _ _ first more => ∀ item ∈ first :: more, item.name.root.chars = heavy
  | .names _ _ (.module name) _ _ _ => name.root.chars = heavy
  | .names _ _ (.beside _ _) _ _ _ => True

theorem Exempt.root_eq {statement : Statement} (h : statement.Exempt heavy)
    (hroot : .package root ∈ statement.declarations) : root.toList = heavy := by
  cases statement with
  | list _ _ first more =>
    obtain ⟨item, hitem, hroot⟩ := List.mem_map.mp hroot
    cases hroot
    rw [String.toList_ofList]
    exact h item hitem
  | names _ _ origin =>
    cases origin with
    | module name =>
      obtain rfl : root = String.ofList name.root.chars := by simpa [declarations] using hroot
      rw [String.toList_ofList]
      exact h
    | beside => simp [declarations] at hroot

/-- A statement that stands on a line like the heavy library's plain import is that import. -/
theorem declarations_of_isHeavyLine {statement : Statement} {comment : Option (List Char)}
    (hword : ∀ c ∈ heavy, isWord c = true) (h : isHeavyLine heavy (statement.line comment) = true) :
    statement.declarations = [.package (String.ofList heavy)] := by
  have htrim := isHeavyLine_iff.mp h
  have hne : heavy ≠ [] := by
    rintro rfl
    have := trim_trim (statement.line comment)
    rw [htrim] at this
    revert this
    decide
  obtain ⟨before, after, hline, hbefore, hafter⟩ := exists_trim (statement.line comment)
  rw [htrim] at hline
  have hcomment : '#' ∉ statement.line comment := by
    intro hc
    simp only [hline, List.mem_append] at hc
    obtain (hc | hc | hc) | hc := hc
    · exact absurd (hbefore _ hc) (by decide)
    · exact absurd hc (by decide)
    · exact absurd (hword _ hc) (by decide)
    · exact absurd (hafter _ hc) (by decide)
  have htext : statement.line comment = statement.text := by
    calc statement.line comment = withoutComment (statement.line comment) :=
          (List.takeWhile_eq_self_iff.mpr fun c hc => by simpa using ne_of_mem_of_not_mem hc hcomment).symm
      _ = statement.text := withoutComment_append statement.comment_notMem_text comment
  have hfeed : '\n' ∉ statement.line comment := htext ▸ statement.feed_notMem_text
  simp only [hline, List.mem_append, not_or] at hfeed
  let plain : Statement :=
    .list ⟨before, hbefore, hfeed.1.1⟩ .single
      ⟨.empty, ⟨⟨heavy, hne, hword⟩, []⟩, none, ⟨after, hafter, hfeed.2⟩⟩ []
  have hplain : plain.line none = statement.line comment := by
    rw [hline]
    simp [plain, line, text, items, Item.text, Item.core, Name.text, Gap.empty, Space.single]
  -- both are read in the same way where another library is heavy
  have hlight : isHeavyLine [] (statement.line comment) = false := by
    refine Bool.eq_false_iff.mpr fun hnil => hne ?_
    simpa [htrim] using isHeavyLine_iff.mp hnil
  calc statement.declarations = Import.declarations [] (statement.line comment) :=
        (declarations_line hlight).symm
    _ = Import.declarations [] (plain.line none) := by rw [hplain]
    _ = plain.declarations := declarations_line (hplain ▸ hlight)
    _ = [.package (String.ofList heavy)] := rfl

end Statement

variable {statement : Statement} {comment : Option (List Char)}

/-- A statement asks for the same on its line whichever library is heavy, but for that library. -/
theorem package_mem_line (hword : ∀ c ∈ heavy, isWord c = true) (hne : root.toList ≠ heavy) :
    .package root ∈ declarations heavy (statement.line comment) ↔
      .package root ∈ statement.declarations := by
  rcases hheavy : isHeavyLine heavy (statement.line comment) with _ | _
  · rw [Statement.declarations_line hheavy]
  · have hroot : root ≠ String.ofList heavy := fun e => hne (by rw [e, String.toList_ofList])
    simp [declarations, hheavy, Statement.declarations_of_isHeavyLine hword hheavy, hroot]

/-- The roots of a chunk with a statement on one of its lines. -/
theorem mem_roots_of_statement {heavy chunk : String} {front back : List (List Char)}
    (hword : ∀ c ∈ heavy.toList, isWord c = true)
    (hlines : lines chunk.toList = front ++ statement.line comment :: back) :
    root ∈ (scan heavy chunk).roots ↔ root ≠ heavy ∧ (.package root ∈ statement.declarations ∨
      ∃ line ∈ front ++ back, .package root ∈ declarations heavy.toList line) := by
  rw [mem_scan_roots]
  refine and_congr_right fun hne => ?_
  have hstatement : .package root ∈ declarations heavy.toList (statement.line comment) ↔
      .package root ∈ statement.declarations :=
    package_mem_line hword (mt String.toList_inj.mp hne)
  have hkept (line : List Char) : line ∈ keptLines heavy.toList chunk.toList ∧
      .package root ∈ declarations heavy.toList line ↔
      line ∈ lines chunk.toList ∧ .package root ∈ declarations heavy.toList line := by
    refine and_congr_left fun hroot => ?_
    simp [keptLines, isHeavyLine_of_package hroot]
  simp only [hkept, hlines, ← hstatement, List.mem_append, List.mem_cons]
  constructor
  · rintro ⟨line, hline | rfl | hline, hroot⟩
    · exact .inr ⟨line, .inl hline, hroot⟩
    · exact .inl hroot
    · exact .inr ⟨line, .inr hline, hroot⟩
  · rintro (hroot | ⟨line, hline | hline, hroot⟩)
    · exact ⟨_, .inr (.inl rfl), hroot⟩
    · exact ⟨line, .inl hline, hroot⟩
    · exact ⟨line, .inr (.inr hline), hroot⟩

/-- A chunk of nothing but imports of the heavy library and of modules beside it has no roots. -/
theorem roots_eq_nil {heavy chunk : String} (hword : ∀ c ∈ heavy.toList, isWord c = true)
    (hlines : ∀ line ∈ lines chunk.toList, declarations heavy.toList line = [] ∨
      ∃ statement : Statement, statement.Exempt heavy.toList ∧
        ∃ comment, line = statement.line comment) :
    (scan heavy chunk).roots = [] := by
  refine List.eq_nil_iff_forall_not_mem.mpr fun root hroot => ?_
  obtain ⟨hne, line, hline, hroot⟩ := mem_scan_roots.mp hroot
  have hne := mt String.toList_inj.mp hne
  obtain hnone | ⟨statement, hexempt, comment, rfl⟩ :=
    hlines line ((List.filter_sublist).subset hline)
  · simp [hnone] at hroot
  · exact hne (hexempt.root_eq ((package_mem_line hword hne).mp hroot))

end Chunkwise.Import
