import Chunkwise.Report.Description
import Chunkwise.Store.Read

/-!
Refusals to be shown. Where a value, a fault or a report cannot be had as a text, the refusal is an
ordinary fault.
-/
namespace Chunkwise

/-- It fails with ordinary faults only. -/
def FailsOrdinarily {α : Type} (result : Except Fault α) : Prop :=
  ∀ fault, result = .error fault → fault.kind.isOrdinary

variable {α β : Type}

theorem ordinary_ok (a : α) : FailsOrdinarily (.ok a) := nofun

theorem ordinary_error {fault : Fault} (h : fault.kind.isOrdinary) :
    FailsOrdinarily (.error fault : Except Fault α) := by
  rintro _ ⟨⟩
  exact h

namespace FailsOrdinarily

theorem bind {result : Except Fault α} {next : α → Except Fault β} (h : FailsOrdinarily result)
    (hnext : ∀ a, FailsOrdinarily (next a)) : FailsOrdinarily (result >>= next) := by
  cases result with
  | error fault => exact ordinary_error (h fault rfl)
  | ok a => exact hnext a

theorem map {result : Except Fault α} (h : FailsOrdinarily result) (f : α → β) :
    FailsOrdinarily (result.map f) := by
  cases result with
  | error fault => exact ordinary_error (h fault rfl)
  | ok a => exact ordinary_ok _

theorem ite {c : Prop} [Decidable c] {yes no : Except Fault α} (hyes : FailsOrdinarily yes)
    (hno : FailsOrdinarily no) : FailsOrdinarily (if c then yes else no) := by
  split
  · exact hyes
  · exact hno

end FailsOrdinarily

/-! What shows a value. -/

theorem ordinary_integerText (n : Int) : FailsOrdinarily (integerText n) :=
  .ite (ordinary_ok _) (ordinary_error rfl)

theorem Value.ordinary_render (v : Value) : FailsOrdinarily v.render := by
  cases v
  case int n => exact ordinary_integerText n
  case range start stop step =>
    refine (ordinary_integerText start).bind fun first => (ordinary_integerText stop).bind
      fun last => .ite (ordinary_ok _) ?_
    exact (ordinary_integerText step).bind fun stride => ordinary_ok _
  all_goals exact ordinary_ok _

mutual

theorem Datum.ordinary_render (d : Datum) : FailsOrdinarily d.render := by
  cases d with
  | leaf v => exact v.ordinary_render
  | seq form items =>
    have hitems := Datum.ordinary_renderAll items
    unfold Datum.render
    split
    · exact ordinary_ok _
    · revert hitems
      rcases Datum.renderAll items with fault | parts <;> intro hitems
      · exact ordinary_error (hitems fault rfl)
      · exact ordinary_ok _
  | map form entries =>
    have hentries := Datum.ordinary_renderEntries entries
    unfold Datum.render
    revert hentries
    rcases Datum.renderEntries entries with fault | parts <;> intro hentries
    · exact ordinary_error (hentries fault rfl)
    · exact ordinary_ok _
  | tensor data requiresGrad =>
    have hdata := Datum.ordinary_render data
    have hgrad := Datum.ordinary_render requiresGrad
    unfold Datum.render
    revert hdata hgrad
    rcases data.render with fault | d <;> rcases requiresGrad.render with fault' | g <;>
      intro hdata hgrad
    · exact ordinary_error (hdata fault rfl)
    · exact ordinary_error (hdata fault rfl)
    · exact ordinary_error (hgrad fault' rfl)
    · exact ordinary_ok _
  | fault fault => exact Fault.ordinary_render fault
  | badRepr message => exact ordinary_error rfl
  | _ => exact ordinary_ok _

theorem Datum.ordinary_renderAll (items : List Datum) : FailsOrdinarily (Datum.renderAll items) := by
  cases items with
  | nil => exact ordinary_ok _
  | cons v rest =>
    have hv := Datum.ordinary_render v
    have hrest := Datum.ordinary_renderAll rest
    unfold Datum.renderAll
    revert hv
    rcases v.render with fault | part <;> intro hv
    · exact ordinary_error (hv fault rfl)
    · exact hrest.map _

theorem Datum.ordinary_renderEntries (entries : List (Datum × Datum)) :
    FailsOrdinarily (Datum.renderEntries entries) := by
  cases entries with
  | nil => exact ordinary_ok _
  | cons entry rest =>
    obtain ⟨k, v⟩ := entry
    have hk := Datum.ordinary_render k
    have hv := Datum.ordinary_render v
    have hrest := Datum.ordinary_renderEntries rest
    unfold Datum.renderEntries
    revert hk hv
    rcases k.render with fault | key <;> intro hk
    · exact fun _ => ordinary_error (hk fault rfl)
    · rcases v.render with fault | value <;> intro hv
      · exact ordinary_error (hv fault rfl)
      · exact hrest.map _

theorem Fault.ordinary_render (fault : Fault) : FailsOrdinarily fault.render := by
  obtain ⟨kind, args, detail, members, trace, notes, cause⟩ := fault
  have hargs := Datum.ordinary_renderAll args
  unfold Fault.render
  revert hargs
  rcases Datum.renderAll args with fault | parts <;> intro hargs
  · exact ordinary_error (hargs fault rfl)
  · exact ordinary_ok _

end

/-! What a fault says. -/

namespace Fault.Parts

/-- The texts of the parts fail with ordinary faults only. -/
structure Ordinary (p : Parts) : Prop where
  args : ∀ arg ∈ p.args, FailsOrdinarily arg.2
  members : ∀ member ∈ p.members, FailsOrdinarily member.2.2

variable {p : Parts}

theorem Ordinary.textOf (h : p.Ordinary) (name : String) : FailsOrdinarily (p.textOf name) := by
  unfold Parts.textOf
  rcases hfound : p.members.lookup name with _ | ⟨d, text⟩
  · exact ordinary_ok _
  · obtain ⟨before, after, hmembers, -⟩ := List.lookup_eq_some_iff.1 hfound
    exact h.members (name, d, text) (by simp [hmembers])

theorem Ordinary.plain (h : p.Ordinary) : FailsOrdinarily p.plain := by
  unfold Parts.plain
  split
  · exact ordinary_ok _
  next d text hargs => exact h.args (d, text) (by simp [hargs])
  · exact (Datum.ordinary_renderAll _).map _

theorem Ordinary.grammar (h : p.Ordinary) : FailsOrdinarily p.grammar := by
  refine (h.textOf "msg").bind fun message => ?_
  split <;> exact ordinary_ok _

theorem Ordinary.system (h : p.Ordinary) : FailsOrdinarily p.system := by
  refine (h.textOf "errno").bind fun number => (h.textOf "strerror").bind fun message => ?_
  split
  · refine (Datum.ordinary_render _).bind fun file => ?_
    split
    · exact (Datum.ordinary_render _).bind fun other => ordinary_ok _
    · exact ordinary_ok _
  · exact .ite (ordinary_ok _) h.plain

theorem Ordinary.coding (h : p.Ordinary) (verb : String) : FailsOrdinarily (p.coding verb) := by
  unfold Parts.coding
  split
  · exact ordinary_ok _
  · refine (h.textOf "reason").bind fun reason => (h.textOf "encoding").bind fun encoding => ?_
    split <;> exact ordinary_ok _

theorem Ordinary.group (h : p.Ordinary) : FailsOrdinarily p.group :=
  (h.textOf "message").bind fun _ => ordinary_ok _

theorem Ordinary.text (h : p.Ordinary) : FailsOrdinarily p.text := by
  refine .ite h.grammar (.ite h.system (.ite (h.coding _) (.ite (h.coding _)
    (.ite (h.coding _) (.ite h.group ?_)))))
  split
  next d text hargs => exact .ite (Datum.ordinary_render d) (h.args (d, text) (by simp [hargs]))
  · exact .ite (ordinary_ok _) h.plain
  · exact h.plain

end Fault.Parts

mutual

theorem Datum.ordinary_text (d : Datum) : FailsOrdinarily d.text := by
  unfold Datum.text
  split
  · exact ordinary_ok _
  next fault => exact Fault.ordinary_text fault
  · exact Datum.ordinary_render _

theorem Datum.ordinary_withTexts (items : List Datum) :
    ∀ item ∈ Datum.withTexts items, FailsOrdinarily item.2 := by
  cases items with
  | nil => nofun
  | cons v rest =>
    unfold Datum.withTexts
    exact List.forall_mem_cons.2 ⟨Datum.ordinary_text v, Datum.ordinary_withTexts rest⟩

theorem Datum.ordinary_withTextsNamed (members : List (String × Datum)) :
    ∀ member ∈ Datum.withTextsNamed members, FailsOrdinarily member.2.2 := by
  cases members with
  | nil => nofun
  | cons entry rest =>
    obtain ⟨name, v⟩ := entry
    unfold Datum.withTextsNamed
    exact List.forall_mem_cons.2 ⟨Datum.ordinary_text v, Datum.ordinary_withTextsNamed rest⟩

theorem Fault.ordinary_text (fault : Fault) : FailsOrdinarily fault.text := by
  obtain ⟨kind, args, detail, members, trace, notes, cause⟩ := fault
  unfold Fault.text
  exact Fault.Parts.Ordinary.text
    ⟨Datum.ordinary_withTexts args, Datum.ordinary_withTextsNamed members⟩

end

/-- A value that cannot be shown is refused with an ordinary fault. -/
theorem Store.ordinary_render (store : Store) (v : Value) : FailsOrdinarily (store.render v) := by
  have hshowable : FailsOrdinarily (store.showable v) := .ite (ordinary_ok _) (ordinary_error rfl)
  exact hshowable.bind Datum.ordinary_render

/-! Reports. -/

namespace Report

theorem ordinary_caretColumn (col : Datum) : FailsOrdinarily (caretColumn col) := by
  unfold caretColumn
  split
  · exact ordinary_ok _
  · exact .ite (ordinary_ok _) (ordinary_error rfl)
  · split
    · exact .ite (ordinary_ok _) (.ite (ordinary_error rfl) (ordinary_error rfl))
    · exact ordinary_error rfl

theorem ordinary_excerptNear (source : String) (line : Decimal.Double) (col : Datum)
    (radius : Int) : FailsOrdinarily (excerptNear source line col radius) := by
  refine .ite (ordinary_ok _) (.ite (ordinary_error rfl) (.ite ?_ (ordinary_ok _)))
  exact (ordinary_caretColumn col).bind fun _ => ordinary_ok _

theorem ordinary_excerptAt (source : String) (line col : Datum) (radius : Int) :
    FailsOrdinarily (excerptAt source line col radius) := by
  unfold excerptAt
  split
  · exact .ite (ordinary_excerptNear source _ col radius) (ordinary_ok _)
  · split
    · exact .ite (ordinary_ok _) ((ordinary_caretColumn col).bind fun _ => ordinary_ok _)
    · exact .ite (ordinary_error rfl) (ordinary_ok _)

theorem ordinary_describe (file : Datum) (fault : Fault) (source : String) :
    FailsOrdinarily (describe file fault source) := by
  refine .ite ((Datum.ordinary_text _).bind fun text => ?_) (ordinary_ok _)
  split
  · exact ordinary_ok _
  · exact (Datum.ordinary_text _).bind fun shown =>
      (ordinary_excerptAt source _ _ 2).bind fun lines => ordinary_ok _

/-- Of a fault that is none of grammar there is always a report. -/
theorem describe_isOk {fault : Fault} (h : fault.kind.isA .syntaxError = false) (file : Datum)
    (source : String) : ∃ message mark, describe file fault source = .ok (message, mark) := by
  unfold describe
  rw [if_neg (by simp [h])]
  exact ⟨_, _, rfl⟩

end Report

end Chunkwise
