import Chunkwise.Datum.HostForm

/-!
Host data as a normal form. Whatever can be taken becomes lists, mappings and leaves with the same
content, what is so already stays as it is, and there is only one such datum for a content.
-/
namespace Chunkwise.Datum

/-- What an object gives when it converts itself, if it can. The first conversion that can be
called has the word. -/
def conversion? (toHost toList : Option (Conversion Datum)) : Option (Except Fault Datum) :=
  (toHost.bind Conversion.call?).or (toList.bind Conversion.call?)

mutual

/-- A datum made of lists, mappings and leaves only. -/
def isPlain : Datum → Bool
  | .leaf (.range ..) => false
  | .seq form items => decide (form = .list) && allPlain items
  | .map form entries => decide (form = .dict) && plainEntries entries
  | .convertible _ toHost toList items =>
    (conversion? toHost toList).isNone && items.isNone
  | .again _ => false
  | _ => true

def allPlain : List Datum → Bool
  | [] => true
  | v :: rest => v.isPlain && allPlain rest

def plainEntries : List (Datum × Datum) → Bool
  | [] => true
  | (_, v) :: rest => v.isPlain && plainEntries rest

end

mutual

/-- A datum that the host can take: an object that converts itself gives plain data. -/
def isTakeable : Datum → Bool
  | .seq _ items => allTakeable items
  | .map _ entries => takeableEntries entries
  | .convertible _ toHost toList items =>
    match conversion? toHost toList with
    | some (.ok value) => value.isPlain
    | some (.error _) => false
    | none =>
      match items with
      | none => true
      | some items => allTakeable items
  | .again _ => false
  | _ => true

def allTakeable : List Datum → Bool
  | [] => true
  | v :: rest => v.isTakeable && allTakeable rest

def takeableEntries : List (Datum × Datum) → Bool
  | [] => true
  | (_, v) :: rest => v.isTakeable && takeableEntries rest

end

/-- What a datum holds, whatever its containers are. -/
inductive Content where
  | leaf (v : Datum)
  /-- Items in order. -/
  | row (items : List Content)
  /-- Values under keys in order. -/
  | table (entries : List (Datum × Content))

mutual

def content : Datum → Content
  | .leaf (.range start stop step) => .row ((rangeItems start stop step).map fun v => .leaf (.leaf v))
  | .seq _ items => .row (contents items)
  | .map _ entries => .table (contentEntries entries)
  | .convertible type toHost toList items =>
    match toHost, toList with
    | some (.returns value), _ => value.content
    | some (.raises _), _ => .leaf (.convertible type toHost toList items)
    | _, some (.returns value) => value.content
    | _, some (.raises _) => .leaf (.convertible type toHost toList items)
    | _, _ =>
      match items with
      | none => .leaf (.convertible type toHost toList none)
      | some items => .row (contents items)
  | v => .leaf v

def contents : List Datum → List Content
  | [] => []
  | v :: rest => v.content :: contents rest

def contentEntries : List (Datum × Datum) → List (Datum × Content)
  | [] => []
  | (key, v) :: rest => (key, v.content) :: contentEntries rest

end

section Convertible

variable {type : String} {toHost toList : Option (Conversion Datum)} {items : Option (List Datum)}

theorem toHost_converted {result : Except Fault Datum}
    (h : conversion? toHost toList = some result) :
    (Datum.convertible type toHost toList items).toHost = result := by
  rcases toHost with _ | _ | _ | _ <;> rcases toList with _ | _ | _ | _ <;> cases h <;> rfl

theorem toHost_unconverted (h : conversion? toHost toList = none) :
    (Datum.convertible type toHost toList items).toHost =
      match items with
      | none => .ok (.convertible type toHost toList none)
      | some items => (toHostAll items).map .list := by
  rcases toHost with _ | _ | _ | _ <;> rcases toList with _ | _ | _ | _ <;> cases h <;>
    cases items <;> rfl

theorem content_converted {value : Datum} (h : conversion? toHost toList = some (.ok value)) :
    (Datum.convertible type toHost toList items).content = value.content := by
  rcases toHost with _ | _ | _ | _ <;> rcases toList with _ | _ | _ | _ <;> cases h <;> rfl

theorem content_unconverted (h : conversion? toHost toList = none) :
    (Datum.convertible type toHost toList items).content =
      match items with
      | none => .leaf (.convertible type toHost toList none)
      | some items => .row (contents items) := by
  rcases toHost with _ | _ | _ | _ <;> rcases toList with _ | _ | _ | _ <;> cases h <;>
    cases items <;> rfl

end Convertible

mutual

/-- Plain data stay as they are. -/
theorem toHost_of_isPlain {v : Datum} (h : v.isPlain = true) : v.toHost = .ok v := by
  match v with
  | .leaf v => cases v <;> first | rfl | cases h
  | .seq form items =>
    obtain ⟨hform, hitems⟩ := (Bool.and_eq_true _ _).mp h
    rw [toHost, toHostAll_of_allPlain hitems, of_decide_eq_true hform]
    rfl
  | .map form entries =>
    obtain ⟨hform, hentries⟩ := (Bool.and_eq_true _ _).mp h
    rw [toHost, toHostEntries_of_plainEntries hentries, of_decide_eq_true hform]
    rfl
  | .convertible type toHost toList items =>
    obtain ⟨hnone, hitems⟩ := (Bool.and_eq_true _ _).mp h
    rw [toHost_unconverted (Option.isNone_iff_eq_none.mp hnone),
      Option.isNone_iff_eq_none.mp hitems]
  | .again _ => cases h
  | .bytes _ | .plain | .tensor .. | .object .. | .badRepr _ | .fault _ => rfl

theorem toHostAll_of_allPlain {items : List Datum} (h : allPlain items = true) :
    toHostAll items = .ok items := by
  match items with
  | [] => rfl
  | v :: rest =>
    obtain ⟨hv, hrest⟩ := (Bool.and_eq_true _ _).mp h
    rw [toHostAll, toHost_of_isPlain hv, toHostAll_of_allPlain hrest]
    rfl

theorem toHostEntries_of_plainEntries {entries : List (Datum × Datum)}
    (h : plainEntries entries = true) : toHostEntries entries = .ok entries := by
  match entries with
  | [] => rfl
  | (key, v) :: rest =>
    obtain ⟨hv, hrest⟩ := (Bool.and_eq_true _ _).mp h
    rw [toHostEntries, toHost_of_isPlain hv, toHostEntries_of_plainEntries hrest]
    rfl

end

/-- The items of a range are numbers. -/
theorem plain_rangeItems (start stop step : Int) :
    allPlain ((rangeItems start stop step).map .leaf) = true ∧
      contents ((rangeItems start stop step).map .leaf) =
        (rangeItems start stop step).map fun v => .leaf (.leaf v) := by
  unfold rangeItems
  induction List.range (rangeLength start stop step) with
  | nil => exact ⟨rfl, rfl⟩
  | cons i rest ih => exact ⟨ih.1, congrArg _ ih.2⟩

mutual

/-- What the host can take becomes plain, with the same content. -/
theorem toHost_of_isTakeable {v : Datum} (h : v.isTakeable = true) :
    ∃ made, v.toHost = .ok made ∧ made.isPlain = true ∧ made.content = v.content := by
  match v with
  | .leaf v =>
    cases v
    case range start stop step =>
      obtain ⟨hplain, hcontents⟩ := plain_rangeItems start stop step
      exact ⟨_, rfl, hplain, congrArg Content.row hcontents⟩
    all_goals exact ⟨_, rfl, rfl, rfl⟩
  | .seq form items =>
    obtain ⟨made, hmade, hplain, hcontents⟩ := toHostAll_of_allTakeable h
    refine ⟨.list made, ?_, hplain, congrArg Content.row hcontents⟩
    rw [toHost, hmade]
    rfl
  | .map form entries =>
    obtain ⟨made, hmade, hplain, hcontents⟩ := toHostEntries_of_takeableEntries h
    refine ⟨.dict made, ?_, hplain, congrArg Content.table hcontents⟩
    rw [toHost, hmade]
    rfl
  | .convertible type toHost toList items => 
    unfold isTakeable at h
    rcases hconversion : conversion? toHost toList with _ | _ | value
    · rw [hconversion] at h
      rw [toHost_unconverted hconversion, content_unconverted hconversion]
      match items with
      | none => 
        refine ⟨_, rfl, ?_, content_unconverted hconversion⟩
        rw [isPlain, hconversion]
        rfl
      | some items =>
        obtain ⟨made, hmade, hplain, hcontents⟩ := toHostAll_of_allTakeable h
        refine ⟨.list made, ?_, hplain, congrArg Content.row hcontents⟩
        dsimp only
        rw [hmade]
        rfl
    · rw [hconversion] at h
      cases h
    · rw [hconversion] at h
      exact ⟨value, toHost_converted hconversion, h, (content_converted hconversion).symm⟩
  | .again _ => cases h
  | .bytes _ | .plain | .tensor .. | .object .. | .badRepr _ | .fault _ => exact ⟨_, rfl, rfl, rfl⟩

theorem toHostAll_of_allTakeable {items : List Datum} (h : allTakeable items = true) :
    ∃ made, toHostAll items = .ok made ∧ allPlain made = true ∧ contents made = contents items := by
  match items with
  | [] => exact ⟨[], rfl, rfl, rfl⟩
  | v :: rest =>
    obtain ⟨hv, hrest⟩ := (Bool.and_eq_true _ _).mp h
    obtain ⟨made, hmade, hplain, hcontent⟩ := toHost_of_isTakeable hv
    obtain ⟨others, hothers, hplains, hcontents⟩ := toHostAll_of_allTakeable hrest
    refine ⟨made :: others, ?_, (Bool.and_eq_true _ _).mpr ⟨hplain, hplains⟩, ?_⟩
    · rw [toHostAll, hmade, hothers]
      rfl
    · rw [contents, contents, hcontent, hcontents]

theorem toHostEntries_of_takeableEntries {entries : List (Datum × Datum)}
    (h : takeableEntries entries = true) :
    ∃ made, toHostEntries entries = .ok made ∧ plainEntries made = true ∧
      contentEntries made = contentEntries entries := by
  match entries with
  | [] => exact ⟨[], rfl, rfl, rfl⟩
  | (key, v) :: rest =>
    obtain ⟨hv, hrest⟩ := (Bool.and_eq_true _ _).mp h
    obtain ⟨made, hmade, hplain, hcontent⟩ := toHost_of_isTakeable hv
    obtain ⟨others, hothers, hplains, hcontents⟩ := toHostEntries_of_takeableEntries hrest
    refine ⟨(key, made) :: others, ?_, (Bool.and_eq_true _ _).mpr ⟨hplain, hplains⟩, ?_⟩
    · rw [toHostEntries, hmade, hothers]
      rfl
    · rw [contentEntries, contentEntries, hcontent, hcontents]

end

mutual

theorem isTakeable_of_isPlain {v : Datum} (h : v.isPlain = true) : v.isTakeable = true := by
  match v with
  | .leaf _ | .bytes _ | .plain | .tensor .. | .object .. | .badRepr _ | .fault _ => rfl
  | .seq form items => exact allTakeable_of_allPlain ((Bool.and_eq_true _ _).mp h).2
  | .map form entries => exact takeableEntries_of_plainEntries ((Bool.and_eq_true _ _).mp h).2
  | .convertible type toHost toList items =>
    obtain ⟨hnone, hitems⟩ := (Bool.and_eq_true _ _).mp h
    obtain rfl := Option.isNone_iff_eq_none.mp hitems
    unfold isTakeable
    rw [Option.isNone_iff_eq_none.mp hnone]
  | .again _ => cases h

theorem allTakeable_of_allPlain {items : List Datum} (h : allPlain items = true) :
    allTakeable items = true := by
  match items with
  | [] => rfl
  | v :: rest =>
    obtain ⟨hv, hrest⟩ := (Bool.and_eq_true _ _).mp h
    rw [allTakeable, isTakeable_of_isPlain hv, allTakeable_of_allPlain hrest]
    rfl

theorem takeableEntries_of_plainEntries {entries : List (Datum × Datum)}
    (h : plainEntries entries = true) : takeableEntries entries = true := by
  match entries with
  | [] => rfl
  | (key, v) :: rest =>
    obtain ⟨hv, hrest⟩ := (Bool.and_eq_true _ _).mp h
    rw [takeableEntries, isTakeable_of_isPlain hv, takeableEntries_of_plainEntries hrest]
    rfl

end

/-- A plain datum is a list, a mapping, or a leaf that is all its content. -/
theorem plain_cases {v : Datum} (h : v.isPlain = true) :
    v.content = .leaf v ∨ (∃ items, v = .list items ∧ allPlain items = true) ∨
      ∃ entries, v = .dict entries ∧ plainEntries entries = true := by
  match v with
  | .leaf v => cases v <;> first | exact .inl rfl | cases h
  | .seq form items =>
    obtain ⟨hform, hitems⟩ := (Bool.and_eq_true _ _).mp h
    obtain rfl := of_decide_eq_true hform
    exact .inr (.inl ⟨items, rfl, hitems⟩)
  | .map form entries =>
    obtain ⟨hform, hentries⟩ := (Bool.and_eq_true _ _).mp h
    obtain rfl := of_decide_eq_true hform
    exact .inr (.inr ⟨entries, rfl, hentries⟩)
  | .convertible type toHost toList items =>
    obtain ⟨hnone, hitems⟩ := (Bool.and_eq_true _ _).mp h
    obtain rfl := Option.isNone_iff_eq_none.mp hitems
    exact .inl (content_unconverted (Option.isNone_iff_eq_none.mp hnone))
  | .again _ => cases h
  | .bytes _ | .plain | .tensor .. | .object .. | .badRepr _ | .fault _ => exact .inl rfl

mutual

/-- Plain data with the same content are one datum. -/
theorem eq_of_content_eq {v w : Datum} (hv : v.isPlain = true) (hw : w.isPlain = true)
    (h : v.content = w.content) : v = w := by
  match v with
  | .seq form items =>
    obtain ⟨hform, hitems⟩ := (Bool.and_eq_true _ _).mp hv
    obtain rfl := of_decide_eq_true hform
    rcases plain_cases hw with hleaf | ⟨others, rfl, hothers⟩ | ⟨others, rfl, -⟩
    · rw [hleaf] at h
      cases h
    · exact congrArg Datum.list (eq_of_contents_eq hitems hothers (Content.row.inj h))
    · cases h
  | .map form entries =>
    obtain ⟨hform, hentries⟩ := (Bool.and_eq_true _ _).mp hv
    obtain rfl := of_decide_eq_true hform
    rcases plain_cases hw with hleaf | ⟨others, rfl, -⟩ | ⟨others, rfl, hothers⟩
    · rw [hleaf] at h
      cases h
    · cases h
    · exact congrArg Datum.dict (eq_of_contentEntries_eq hentries hothers (Content.table.inj h))
  | .leaf _ | .convertible .. | .again _ | .bytes _ | .plain | .tensor .. | .object ..
  | .badRepr _ | .fault _ =>
    rcases plain_cases hv with hleaf | ⟨_, hlist, -⟩ | ⟨_, hdict, -⟩
    · rw [hleaf] at h
      rcases plain_cases hw with hleaf | ⟨_, rfl, -⟩ | ⟨_, rfl, -⟩
      · rw [hleaf] at h
        exact Content.leaf.inj h
      all_goals cases h
    · cases hlist
    · cases hdict

theorem eq_of_contents_eq {items others : List Datum} (hitems : allPlain items = true)
    (hothers : allPlain others = true) (h : contents items = contents others) :
    items = others := by
  match items, others with
  | [], [] => rfl
  | [], _ :: _ | _ :: _, [] => cases h
  | v :: rest, w :: rest' =>
    obtain ⟨hv, hrest⟩ := (Bool.and_eq_true _ _).mp hitems
    obtain ⟨hw, hrest'⟩ := (Bool.and_eq_true _ _).mp hothers
    obtain ⟨hhead, htail⟩ := List.cons.inj h
    rw [eq_of_content_eq hv hw hhead, eq_of_contents_eq hrest hrest' htail]

theorem eq_of_contentEntries_eq {entries others : List (Datum × Datum)}
    (hentries : plainEntries entries = true) (hothers : plainEntries others = true)
    (h : contentEntries entries = contentEntries others) : entries = others := by
  match entries, others with
  | [], [] => rfl
  | [], _ :: _ | _ :: _, [] => cases h
  | (key, v) :: rest, (key', w) :: rest' =>
    obtain ⟨hv, hrest⟩ := (Bool.and_eq_true _ _).mp hentries
    obtain ⟨hw, hrest'⟩ := (Bool.and_eq_true _ _).mp hothers
    obtain ⟨hhead, htail⟩ := List.cons.inj h
    obtain ⟨hkey, hvalue⟩ := Prod.mk.inj hhead
    rw [hkey, eq_of_content_eq hv hw hvalue, eq_of_contentEntries_eq hrest hrest' htail]

end

end Chunkwise.Datum
