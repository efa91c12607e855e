import Chunkwise.Proofs.Import.Filter
import Chunkwise.Proofs.Import.Roots

/-!
Import statements as they are written on a line, with any blanks between their parts and a comment
behind, and what is read of them: an item of a list declares the first segment of its name, and a
`from` line its one module.
-/
namespace Chunkwise.Import
open Text

/-! How statements are written. -/

/-- Blanks on a line, perhaps none. -/
structure Gap where
  chars : List Char
  blank : ∀ c ∈ chars, isBlank c = true
  line : '\n' ∉ chars

def Gap.empty : Gap := ⟨[], by simp, by simp⟩

/-- Blanks that keep two words apart. -/
structure Space extends Gap where
  ne_nil : chars ≠ []

def Space.single : Space := ⟨⟨[' '], List.all_eq_true.mp rfl, by decide⟩, by decide⟩

/-- A run of word characters. -/
structure Word where
  chars : List Char
  ne_nil : chars ≠ []
  word : ∀ c ∈ chars, isWord c = true

def Word.ofText (text : String) (h : text.toList ≠ [] ∧ text.toList.all isWord = true) : Word :=
  ⟨text.toList, h.1, List.all_eq_true.mp h.2⟩

/-- A module's name: segments with points between them. -/
structure Name where
  root : Word
  inner : List Word := []

def Name.text (name : Name) : List Char :=
  name.root.chars ++ name.inner.flatMap fun segment => '.' :: segment.chars

/-- Another name for a module. -/
structure Alias where
  before : Space
  after : Space
  name : Word

def Alias.text (a : Alias) : List Char :=
  a.before.chars ++ "as".toList ++ a.after.chars ++ a.name.chars

/-- An item of a list, with the blanks around it. -/
structure Item where
  before : Gap
  name : Name
  alias? : Option Alias := none
  after : Gap

namespace Item

/-- The item without the blanks around it. -/
def core (item : Item) : List Char :=
  item.name.text ++ (item.alias?.map Alias.text).getD []

def text (item : Item) : List Char :=
  item.before.chars ++ item.core ++ item.after.chars

/-- The item without the blanks in front of it. -/
def atStart (item : Item) : Item :=
  { item with before := .empty }

end Item

/-- What a `from` line takes names from: a module, or one beside the chunk's own. -/
inductive Origin where
  | module (name : Name)
  /-- There is one point more than the number says. -/
  | beside (points : Nat) (name? : Option Name)

def Origin.text : Origin → List Char
  | .module name => name.text
  | .beside points name? => List.replicate (points + 1) '.' ++ (name?.map Name.text).getD []

/-- What a `from` line takes from a module. -/
structure Imported where
  chars : List Char
  head : ∃ c, chars.head? = some c ∧ isBlank c = false
  comment : '#' ∉ chars
  line : '\n' ∉ chars

/-- An import statement on a line of its own. -/
inductive Statement where
  | list (indent : Gap) (space : Space) (first : Item) (more : List Item)
  | names (indent : Gap) (space : Space) (origin : Origin) (before after : Space)
      (imported : Imported)

namespace Statement

/-- The items of a list with commas between them. -/
def items (first : Item) (more : List Item) : List Char :=
  [','].intercalate ((first :: more).map Item.text)

def text : Statement → List Char
  | .list indent space first more => indent.chars ++ "import".toList ++ space.chars ++ items first more
  | .names indent space origin before after imported =>
    indent.chars ++ "from".toList ++ space.chars ++ origin.text ++ before.chars ++ "import".toList ++
      after.chars ++ imported.chars

/-- The statement with a comment behind it, if there is one. -/
def line (statement : Statement) (comment : Option (List Char)) : List Char :=
  statement.text ++ (comment.map ('#' :: ·)).getD []

/-- What a statement asks for. -/
def declarations : Statement → List Declaration
  | .list _ _ first more =>
    (first :: more).map fun item => .package (String.ofList item.name.root.chars)
  | .names _ _ (.module name) _ _ _ => [.package (String.ofList name.root.chars)]
  | .names _ _ (.beside points name?) _ _ _ =>
    [.relative (String.ofList (Origin.beside points name?).text)]

end Statement

/-- A line opens with a keyword and a blank behind it. -/
def Opens (keyword : String) (line : List Char) : Prop :=
  ∃ c rest, trimStart line = keyword.toList ++ c :: rest ∧ isBlank c = true

/-! What is written where. -/

theorem ne_of_isWord {c d : Char} (h : isWord c = true) (hd : isWord d = false) : c ≠ d := by
  rintro rfl
  simp [h] at hd

theorem ne_of_isBlank {c d : Char} (h : isBlank c = true) (hd : isBlank d = false) : c ≠ d := by
  rintro rfl
  simp [h] at hd

variable {c : Char} {heavy line t : List Char}

/-- What begins with blanks begins with a blank. -/
theorem any_isBlank_append {s : List Char} (hne : s ≠ []) (hs : ∀ c ∈ s, isBlank c = true)
    (t : List Char) : (s ++ t).head?.any isBlank = true := by
  obtain ⟨first, more, rfl⟩ := List.exists_cons_of_ne_nil hne
  simpa using hs first (by simp)

theorem isBlank_of_head? {t : List Char} (h : t.head?.any isBlank = true) (hc : t.head? = some c) :
    isBlank c = true := by
  simpa [hc] using h

theorem Space.head? (space : Space) (t : List Char) :
    (space.chars ++ t).head?.any isBlank = true :=
  any_isBlank_append space.ne_nil space.blank t

theorem Space.head?_reverse (space : Space) (t : List Char) :
    (space.chars.reverse ++ t).head?.any isBlank = true :=
  any_isBlank_append (by simp [space.ne_nil]) (fun c hc => space.blank c (List.mem_reverse.mp hc)) t

theorem Word.head? (word : Word) {t : List Char} (h : (word.chars ++ t).head? = some c) :
    isWord c = true := by
  obtain ⟨first, more, hchars⟩ := List.exists_cons_of_ne_nil word.ne_nil
  obtain rfl : first = c := by simpa [hchars] using h
  exact word.word first (by simp [hchars])

theorem Word.getLast? (word : Word) {t : List Char} (h : (t ++ word.chars).getLast? = some c) :
    isWord c = true := by
  obtain ⟨front, last, hchars⟩ := List.eq_nil_or_concat word.chars |>.resolve_left word.ne_nil
  rw [List.concat_eq_append] at hchars
  obtain rfl : last = c := by simpa [hchars] using h
  exact word.word last (by simp [hchars])

namespace Name

variable (name : Name)

theorem ne_nil : name.text ≠ [] := by simp [text, name.root.ne_nil]

theorem head? {t : List Char} (h : (name.text ++ t).head? = some c) : isWord c = true :=
  name.root.head? (by simpa only [text, List.append_assoc] using h)

/-- A name ends with its last segment. -/
theorem exists_last : ∃ front, ∃ last : Word, name.text = front ++ last.chars := by
  rcases List.eq_nil_or_concat name.inner with h | ⟨front, last, h⟩
  · exact ⟨[], name.root, by simp [text, h]⟩
  · rw [List.concat_eq_append] at h
    exact ⟨name.root.chars ++ front.flatMap (fun segment => '.' :: segment.chars) ++ ['.'], last,
      by simp [text, h]⟩

theorem getLast? (h : name.text.getLast? = some c) : isWord c = true := by
  obtain ⟨front, last, hlast⟩ := name.exists_last
  exact last.getLast? (hlast ▸ h)

theorem mem_text (h : c ∈ name.text) : isWord c = true ∨ c = '.' := by
  simp only [text, List.mem_append, List.mem_flatMap, List.mem_cons] at h
  obtain h | ⟨segment, -, rfl | h⟩ := h
  · exact .inl (name.root.word c h)
  · exact .inr rfl
  · exact .inl (segment.word c h)

/-- The first segment of a name is what stands before its first point. -/
theorem takeWhile_text : name.text.takeWhile (· ≠ '.') = name.root.chars := by
  refine takeWhile_append (fun c hc => ?_) fun c hc => ?_
  · simpa using ne_of_isWord (name.root.word c hc) (by decide)
  · rcases hinner : name.inner with _ | ⟨segment, rest⟩
    · simp [hinner] at hc
    · simp [hinner] at hc
      simp [← hc]

theorem ofPath?_text : ofPath? name.text = some (.package (String.ofList name.root.chars)) := by
  have hblank (c : Char) (hc : c ∈ name.root.chars) : isBlank c = false :=
    isBlank_of_isWord (name.root.word c hc)
  have htrim : trim name.root.chars = name.root.chars := by
    have hcut : trim ([] ++ name.root.chars ++ []) = name.root.chars :=
      trim_append (by simp) (by simp) name.root.ne_nil
        (fun c hc => hblank c (List.mem_of_head? hc)) fun c hc => hblank c (List.mem_of_getLast? hc)
    simpa using hcut
  rw [ofPath?_eq_package, segment, takeWhile_text, htrim]
  refine ⟨fun h => ?_, name.root.ne_nil, String.toList_ofList⟩
  have := name.head? (t := []) (by simpa using h)
  revert this
  decide

end Name

namespace Item

variable (item : Item)

theorem head?_core (h : item.core.head? = some c) : isBlank c = false :=
  isBlank_of_isWord (item.name.head? h)

theorem getLast?_core (h : item.core.getLast? = some c) : isBlank c = false := by
  refine isBlank_of_isWord ?_
  rcases ha : item.alias? with _ | a
  · exact item.name.getLast? (by simpa [core, ha] using h)
  · refine a.name.getLast? (t := item.name.text ++ (a.before.chars ++ "as".toList ++ a.after.chars)) ?_
    simpa [core, ha, Alias.text] using h

theorem core_ne_nil : item.core ≠ [] := by simp [core, item.name.ne_nil]

theorem trim_text : trim item.text = item.core :=
  trim_append item.before.blank item.after.blank item.core_ne_nil (fun _ => item.head?_core) fun _ =>
    item.getLast?_core

theorem mem_text (h : c ∈ item.text) : isWord c = true ∨ c = '.' ∨ isBlank c = true ∧ c ≠ '\n' := by
  have hgap (gap : Gap) (hc : c ∈ gap.chars) : isBlank c = true ∧ c ≠ '\n' :=
    ⟨gap.blank c hc, fun e => gap.line (e ▸ hc)⟩
  simp only [text, core, List.mem_append] at h
  obtain (h | h | h) | h := h
  · exact .inr (.inr (hgap _ h))
  · exact (item.name.mem_text h).imp_right .inl
  · rcases ha : item.alias? with _ | a <;> simp only [ha, Option.map_none, Option.map_some,
      Option.getD_none, Option.getD_some, List.not_mem_nil, Alias.text, List.mem_append] at h
    obtain ((h | h) | h) | h := h
    · exact .inr (.inr (hgap _ h))
    · refine .inl ?_
      obtain rfl | rfl : c = 'a' ∨ c = 's' := by simpa using h
      all_goals decide
    · exact .inr (.inr (hgap _ h))
    · exact .inl (a.name.word c h)
  · exact .inr (.inr (hgap _ h))

theorem notMem_text (hw : isWord c = false) (hb : isBlank c = true → c = '\n') (hp : c ≠ '.') :
    c ∉ item.text := by
  intro h
  obtain h | rfl | ⟨h, hn⟩ := item.mem_text h
  · simp [hw] at h
  · exact hp rfl
  · exact hn (hb h)

/-- An alias is told from the name before it. -/
theorem withoutAlias_core : withoutAlias item.core = item.name.text := by
  rcases ha : item.alias? with _ | a
  · -- read backwards, a name goes on with a point behind its last segment
    have hcore : item.core = item.name.text := by simp [core, ha]
    rw [hcore, withoutAlias]
    have hhead : (item.name.text.reverse.dropWhile isWord).head?.any isBlank = false := by
      rcases h : (item.name.text.reverse.dropWhile isWord).head? with _ | d
      · rfl
      · have hmem := (List.dropWhile_suffix isWord).subset (List.mem_of_head? h)
        have hword : isWord d = false := by
          have := List.head?_dropWhile_not isWord item.name.text.reverse
          rw [h] at this
          simpa using this
        obtain hd | rfl := item.name.mem_text (List.mem_reverse.mp hmem)
        · simp [hd] at hword
        · decide
    simp [hhead]
  · -- read backwards: the new name, blanks, `sa`, blanks, the name
    have hcore : item.core.reverse = a.name.chars.reverse ++
        (a.after.chars.reverse ++ ('s' :: 'a' :: (a.before.chars.reverse ++
          item.name.text.reverse))) := by
      simp [core, ha, Alias.text]
    let rest := a.before.chars.reverse ++ item.name.text.reverse
    have hrest : rest.head?.any isBlank = true := a.before.head?_reverse _
    have hafter := a.after.head?_reverse ('s' :: 'a' :: rest)
    have hword : ∀ c ∈ a.name.chars.reverse, isWord c = true :=
      fun c hc => a.name.word c (List.mem_reverse.mp hc)
    have hname := takeWhile_append hword fun c hc => isWord_of_isBlank (isBlank_of_head? hafter hc)
    have hbehind := dropWhile_append hword fun c hc => isWord_of_isBlank (isBlank_of_head? hafter hc)
    have has : (a.after.chars.reverse ++ 's' :: 'a' :: rest).dropWhile isBlank = 's' :: 'a' :: rest :=
      dropWhile_append (fun c hc => a.after.blank c (List.mem_reverse.mp hc)) fun c hc => by
        obtain rfl : 's' = c := by simpa using hc
        rfl
    have hcut : rest.dropWhile isBlank = item.name.text.reverse :=
      dropWhile_append (fun c hc => a.before.blank c (List.mem_reverse.mp hc))
        fun c hc => isBlank_of_isWord (item.name.getLast? (by simpa using hc))
    simp only [withoutAlias, hcore]
    rw [hname, hbehind, has, if_neg (not_or.mpr
      ⟨by simpa using a.name.ne_nil, not_not.mpr hafter⟩)]
    dsimp only
    rw [if_pos ⟨.inl rfl, .inl rfl, hrest⟩, hcut, List.reverse_reverse]

/-- What is read of an item. -/
theorem declaration :
    (if trim item.text = [] then none else ofPath? (withoutAlias (trim item.text))) =
      some (.package (String.ofList item.name.root.chars)) := by
  rw [trim_text, if_neg item.core_ne_nil, withoutAlias_core, Name.ofPath?_text]

end Item

namespace Origin

variable (origin : Origin)

theorem mem_text (h : c ∈ origin.text) : isWord c = true ∨ c = '.' := by
  cases origin with
  | module name => exact name.mem_text h
  | beside points name? =>
    rcases List.mem_append.mp h with h | h
    · exact .inr (List.eq_of_mem_replicate h)
    · rcases name? with _ | name
      · cases h
      · exact name.mem_text h

theorem ne_nil : origin.text ≠ [] := by
  cases origin with
  | module name => exact name.ne_nil
  | beside points name? => simp [text, List.replicate_succ]

theorem isBlank_eq_false (h : c ∈ origin.text) : isBlank c = false := by
  obtain h | rfl := origin.mem_text h
  · exact isBlank_of_isWord h
  · rfl

theorem head? {t : List Char} (h : (origin.text ++ t).head? = some c) : isBlank c = false := by
  obtain ⟨first, more, htext⟩ := List.exists_cons_of_ne_nil origin.ne_nil
  obtain rfl : first = c := by simpa [htext] using h
  exact origin.isBlank_eq_false (by simp [htext])

end Origin

/-! What is read of a line. -/

theorem withoutComment_append (h : '#' ∉ t) (comment : Option (List Char)) :
    withoutComment (t ++ (comment.map ('#' :: ·)).getD []) = t := by
  refine takeWhile_append (fun c hc => ?_) fun c hc => ?_
  · have : c ≠ '#' := fun e => h (e ▸ hc)
    simpa using this
  · rcases comment with _ | comment <;> simp at hc
    simp [← hc]

/-- A keyword with blanks behind it is taken off. -/
theorem afterKeyword?_append {keyword : String} (space : Space) (t : List Char) :
    afterKeyword? keyword (keyword.toList ++ (space.chars ++ t)) = some (trimStart t) := by
  rw [afterKeyword?, List.isPrefixOf?_eq_some_iff_append_eq.mpr rfl, ← trimStart_append space.blank t]
  exact if_pos (space.head? t)

/-- The blanks in front of a keyword are no part of the line. -/
theorem trimStart_keyword {keyword : String} (gap : Gap)
    (h : keyword.toList.head?.all (!isBlank ·)) (hne : keyword.toList ≠ []) (t : List Char) :
    trimStart (gap.chars ++ (keyword.toList ++ t)) = keyword.toList ++ t := by
  obtain ⟨first, more, hchars⟩ := List.exists_cons_of_ne_nil hne
  rw [trimStart_append gap.blank, hchars]
  exact trimStart_eq_self fun c hc => by simp_all

theorem opens_of_afterKeyword? {keyword : String} (h : afterKeyword? keyword (trimStart line) = some t) :
    Opens keyword line := by
  simp only [afterKeyword?, Option.bind_eq_bind, Option.bind_eq_some_iff] at h
  obtain ⟨rest, hrest, h⟩ := h
  have hline := List.append_eq_of_isPrefixOf?_eq_some hrest
  split at h
  next hblank =>
    rcases rest with _ | ⟨c, rest⟩
    · simp at hblank
    · exact ⟨c, rest, hline.symm, by simpa using hblank⟩
  next => simp at h

namespace Statement

variable {first : Item} {more : List Item}

theorem items_eq (first : Item) (more : List Item) :
    items first more = first.text ++ more.flatMap fun item => ',' :: item.text := by
  induction more generalizing first with
  | nil => simp [items]
  | cons item more ih =>
    simp only [items, List.map_cons, List.intercalate_cons_cons] at ih ⊢
    simp [ih item]

/-- A list has no character but commas that none of its items has. -/
theorem notMem_items (h : ∀ item : Item, c ∉ item.text) (hc : c ≠ ',') : c ∉ items first more := by
  simp [items_eq, h, hc]

/-- The blanks in front of a list are those in front of its first item. -/
theorem trimStart_items (first : Item) (more : List Item) :
    trimStart (items first more) = items first.atStart more := by
  have hcore (t : List Char) : trimStart (first.core ++ t) = first.core ++ t := by
    refine trimStart_eq_self fun c hc => isBlank_of_isWord ?_
    exact first.name.head? (by simpa only [Item.core, List.append_assoc] using hc)
  rw [items_eq, items_eq, Item.text, List.append_assoc, List.append_assoc,
    trimStart_append first.before.blank, hcore]
  simp [Item.text, Item.atStart, Item.core, Gap.empty]

theorem ofList_items (first : Item) (more : List Item) :
    ofList (items first more) =
      (first :: more).map fun item => .package (String.ofList item.name.root.chars) := by
  have hcomma : ∀ part ∈ (first :: more).map Item.text, ',' ∉ part := by
    intro part hpart
    obtain ⟨item, -, rfl⟩ := List.mem_map.mp hpart
    exact item.notMem_text (by decide) (by decide) (by decide)
  rw [ofList, items, List.splitOn_intercalate _ hcomma (by simp), List.filterMap_map]
  simp only [Function.comp_def, Item.declaration]
  exact congrFun List.filterMap_eq_map _

theorem importList?_list (indent : Gap) (space : Space) (first : Item) (more : List Item) :
    importList? (text (.list indent space first more)) = some (items first.atStart more) := by
  have hn : '\n' ∉ items first.atStart more :=
    notMem_items (fun item => item.notMem_text (by decide) (fun _ => rfl) (by decide))
      (by decide)
  have hne : items first.atStart more ≠ [] := by simp [items_eq, Item.text, Item.core_ne_nil]
  have hbody : afterKeyword? "import" (trimStart (text (.list indent space first more))) =
      some (items first.atStart more) := by
    rw [← trimStart_items, text, List.append_assoc, List.append_assoc,
      trimStart_keyword indent (by decide) (by decide), afterKeyword?_append]
  rw [importList?, hbody]
  simp [hne, singleLine?_eq_self hn]

section Names

variable (indent : Gap) (space : Space) (origin : Origin) (before after : Space)
  (imported : Imported)

theorem trimStart_names : trimStart (text (.names indent space origin before after imported)) =
    "from".toList ++ (space.chars ++ (origin.text ++ (before.chars ++ ("import".toList ++
      (after.chars ++ imported.chars))))) := by
  have htext : text (.names indent space origin before after imported) =
      indent.chars ++ ("from".toList ++ (space.chars ++ (origin.text ++ (before.chars ++
        ("import".toList ++ (after.chars ++ imported.chars)))))) := by
    simp [text]
  rw [htext, trimStart_keyword indent (by decide) (by decide)]

theorem importList?_names :
    importList? (text (.names indent space origin before after imported)) = none := by
  rw [importList?, trimStart_names]
  rfl

/-- There are blanks and then names behind the second keyword. -/
theorem isImported_append (after : Space) (imported : Imported) :
    isImported (after.chars ++ imported.chars) = true := by
  obtain ⟨c, hc, hblank⟩ := imported.head
  have hhead : ∀ d, imported.chars.head? = some d → isBlank d = false := by
    rintro d hd
    obtain rfl := Option.some.inj (hc.symm.trans hd)
    exact hblank
  have hne : imported.chars ≠ [] := by
    rintro hnil
    simp [hnil] at hc
  simp only [isImported]
  rw [takeWhile_append after.blank hhead, dropWhile_append after.blank hhead, if_neg hne,
    singleLine?_eq_self imported.line]
  simpa using after.ne_nil

theorem fromModule?_names :
    fromModule? (text (.names indent space origin before after imported)) = some origin.text := by
  let rest := before.chars ++ ("import".toList ++ (after.chars ++ imported.chars))
  have hblank : rest.head?.any isBlank = true := before.head? _
  have hbody : afterKeyword? "from" (trimStart (text (.names indent space origin before after
      imported))) = some (origin.text ++ rest) := by
    rw [trimStart_names, afterKeyword?_append, trimStart_eq_self fun c hc => origin.head? hc]
  have hpath : ∀ c ∈ origin.text, (isWord c || c == '.') = true := by
    intro c hc
    simpa using origin.mem_text hc
  have hrest : ∀ c, rest.head? = some c → (isWord c || c == '.') = false := by
    intro c hc
    have := isBlank_of_head? hblank hc
    simpa [isWord_of_isBlank this] using ne_of_isBlank this (by decide)
  have htail : trimStart rest = "import".toList ++ (after.chars ++ imported.chars) :=
    trimStart_keyword before.toGap (by decide) (by decide) _
  simp only [fromModule?, hbody, Option.bind_eq_bind, Option.bind_some]
  rw [takeWhile_append hpath hrest, dropWhile_append hpath hrest, htail,
    if_neg (not_or.mpr ⟨origin.ne_nil, not_not.mpr hblank⟩),
    List.isPrefixOf?_eq_some_iff_append_eq.mpr rfl]
  simp [isImported_append]

end Names

theorem notMem_text (hw : isWord c = false) (hb : isBlank c = true → c = '\n')
    (hc : c ∉ ['.', ',']) (hkeywords : c ∉ "import".toList ++ "from".toList)
    (himported : ∀ imported : Imported, c ∉ imported.chars) (statement : Statement) :
    c ∉ statement.text := by
  have hgap (gap : Gap) : c ∉ gap.chars := fun h => gap.line (hb (gap.blank c h) ▸ h)
  obtain ⟨hpoint, hcomma⟩ : c ≠ '.' ∧ c ≠ ',' := by simpa using hc
  rw [List.mem_append, not_or] at hkeywords
  cases statement with
  | list indent space first more =>
    have hitems : c ∉ items first more :=
      notMem_items (fun item => item.notMem_text hw hb hpoint) hcomma
    simp only [text, List.mem_append, hgap, hkeywords.1, hitems, or_self, not_false_eq_true]
  | names indent space origin before after imported =>
    have horigin : c ∉ origin.text := fun h => by
      simpa [hw, hpoint] using origin.mem_text h
    simp only [text, List.mem_append, hgap, hkeywords.1, hkeywords.2, horigin, himported, or_self,
      not_false_eq_true]

/-- Nothing in a statement is taken for a comment. -/
theorem comment_notMem_text (statement : Statement) : '#' ∉ statement.text :=
  statement.notMem_text (by decide) (by decide) (by decide) (by decide) Imported.comment

theorem feed_notMem_text (statement : Statement) : '\n' ∉ statement.text :=
  statement.notMem_text (by decide) (fun _ => rfl) (by decide) (by decide) Imported.line

theorem declarations_line {statement : Statement} {comment : Option (List Char)}
    (h : isHeavyLine heavy (statement.line comment) = false) :
    Import.declarations heavy (statement.line comment) = statement.declarations := by
  have hcode : withoutComment (statement.line comment) = statement.text :=
    withoutComment_append statement.comment_notMem_text comment
  simp only [Import.declarations, h, Bool.false_eq_true, if_false, hcode]
  cases statement with
  | list indent space first more =>
    rw [importList?_list]
    exact ofList_items first.atStart more
  | names indent space origin before after imported =>
    rw [importList?_names, fromModule?_names]
    cases origin with
    | module name => simp [Origin.text, Name.ofPath?_text, declarations]
    | beside points name? => simp [ofPath?, Origin.text, List.replicate_succ, declarations]

end Statement

/-- The heavy library's plain import opens with the keyword. -/
theorem opens_of_isHeavyLine (h : isHeavyLine heavy line = true) :
    Opens "import" (withoutComment line) := by
  obtain ⟨before, after, hline, hbefore, -⟩ := exists_trim line
  let more := heavy ++ after
  have hline : line = before ++ ("import ".toList ++ more) := by
    rw [hline, isHeavyLine_iff.mp h]
    simp [more]
  have hcode : withoutComment line = before ++ ("import ".toList ++ withoutComment more) := by
    rw [hline, withoutComment, List.takeWhile_append_of_pos,
      List.takeWhile_append_of_pos (List.all_eq_true.mp rfl)]
    · rfl
    · exact fun c hc => by simpa using ne_of_isBlank (hbefore c hc) (by decide)
  refine ⟨' ', withoutComment more, ?_, by decide⟩
  rw [hcode, trimStart_append hbefore]
  exact trimStart_eq_self (by simp; decide)

/-- What does not open with a keyword and a blank declares nothing. -/
theorem declarations_of_not_opens (himport : ¬ Opens "import" (withoutComment line))
    (hfrom : ¬ Opens "from" (withoutComment line)) : declarations heavy line = [] := by
  have hheavy : isHeavyLine heavy line = false :=
    Bool.eq_false_iff.mpr fun h => himport (opens_of_isHeavyLine h)
  have hkeyword {keyword : String} (h : ¬ Opens keyword (withoutComment line)) :
      afterKeyword? keyword (trimStart (withoutComment line)) = none :=
    Option.eq_none_iff_forall_ne_some.mpr fun _ hrest => h (opens_of_afterKeyword? hrest)
  simp [declarations, hheavy, importList?, fromModule?, hkeyword himport, hkeyword hfrom]

/-- An import statement on a line, whatever blanks and comment are written with it, declares exactly
what it asks for, unless it is the heavy library's plain import: a list the first segments of its
items in order, a `from` line its one module, by the first segment or, beside the chunk's own, by its
whole text. A line that does not open with one of the keywords and a blank declares nothing. -/
theorem declarations_of_statements (heavy : List Char) :
    (∀ (statement : Statement) (comment : Option (List Char)),
      trim (statement.line comment) ≠ "import ".toList ++ heavy →
        declarations heavy (statement.line comment) = statement.declarations) ∧
    ∀ line, ¬ Opens "import" (withoutComment line) → ¬ Opens "from" (withoutComment line) →
      declarations heavy line = [] := by
  refine ⟨fun statement comment h => ?_, fun line => declarations_of_not_opens⟩
  exact Statement.declarations_line (Bool.eq_false_iff.mpr (mt isHeavyLine_iff.mp h))

/-- A list with an alias and a heavy item, and a line that only begins like an import. -/
theorem declarations_of_list_with_alias :
    declarations "torch".toList "import a.b as as ,\ttorch.nn# all".toList =
        [.package "a", .package "torch"] ∧
      declarations "torch".toList "important = a".toList = [] := by
  let tab : Gap := ⟨['\t'], List.all_eq_true.mp rfl, by decide⟩
  let first : Item := ⟨.empty, ⟨.ofText "a" (by decide), [.ofText "b" (by decide)]⟩,
    some ⟨.single, .single, .ofText "as" (by decide)⟩, Space.single.toGap⟩
  let second : Item := ⟨tab,
    ⟨.ofText "torch" (by decide), [.ofText "nn" (by decide)]⟩, none, .empty⟩
  let statement : Statement := .list .empty .single first [second]
  have hline : statement.line (some " all".toList) =
      "import a.b as as ,\ttorch.nn# all".toList := by decide
  have hlight : trim (statement.line (some " all".toList)) ≠ "import ".toList ++ "torch".toList := by
    rw [hline]
    decide +kernel
  obtain ⟨hstatement, hother⟩ := declarations_of_statements "torch".toList
  refine ⟨hline ▸ hstatement statement _ hlight, hother _ ?_ ?_⟩
  · rintro ⟨c, rest, hopens, hc⟩
    obtain ⟨rfl, -⟩ := List.cons.inj (List.append_cancel_left
      (show "import".toList ++ 'a' :: "nt = a".toList = "import".toList ++ c :: rest from hopens))
    revert hc
    decide
  · rintro ⟨c, rest, hopens, -⟩
    have : some 'i' = some 'f' := congrArg List.head? hopens
    revert this
    decide

end Chunkwise.Import
