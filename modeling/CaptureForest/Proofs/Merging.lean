import CaptureForest.Proofs.Audit
import Mathlib.Logic.Function.Basic

/-!
# Merging reports

Reports are filled by adding errors, warnings and suggestions, and by merging other
reports into them.  Whatever is done with a number of reports, each is valid exactly
if it has no errors.

The check of a forest fills one report on its way.  What is in the report already has
no influence on what is added, so the check adds to any report what it would add to a
fresh one.  A check of two lists goes on from what it has added for the first, and the
report on their declarations is therefore the merger of the reports on the lists, but
for the praise, which each list gets by itself.
-/

namespace CaptureForest

/-- What is done with reports that are known by names. -/
inductive ReportStep (ι : Type) where
  | addError (on : ι) (p : Problem)
  | addWarning (on : ι) (w : Warning)
  | addSuggestion (on : ι) (s : Value)
  | merge (on other : ι)

namespace Report

/-- The report is valid exactly if it has no errors. -/
def IsConsistent (r : Report) : Prop := r.isValid = true ↔ r.errors = []

/-- The reports tell the same about declarations; only their suggestions may differ. -/
structure TellsAsMuch (r r' : Report) : Prop where
  isValid : r.isValid = r'.isValid
  checked : r.checked = r'.checked
  errors : r.errors = r'.errors
  warnings : r.warnings = r'.warnings

end Report

namespace ReportStep

variable {ι : Type} [DecidableEq ι]

/-- The reports after a step. -/
def perform (reports : ι → Report) : ReportStep ι → ι → Report
  | .addError on p => Function.update reports on ((reports on).addError p)
  | .addWarning on w => Function.update reports on ((reports on).addWarning w)
  | .addSuggestion on s => Function.update reports on ((reports on).addSuggestion s)
  | .merge on other => Function.update reports on ((reports on).merge (reports other))

/-- The reports after a run that begins with fresh ones. -/
def run (steps : List (ReportStep ι)) : ι → Report := steps.foldl perform fun _ => {}

end ReportStep

/-! ### Validity -/

namespace Report

theorem isConsistent_fresh : ({} : Report).IsConsistent := iff_of_true rfl rfl

theorem isConsistent_addError (r : Report) (p : Problem) : (r.addError p).IsConsistent := by
  simp [IsConsistent, addError]

theorem IsConsistent.merge {r other : Report} (h : r.IsConsistent) :
    (r.merge other).IsConsistent := by
  unfold IsConsistent at h ⊢
  simp only [Report.merge, hasErrors, Bool.not_not, Bool.and_eq_true, List.isEmpty_iff,
    List.append_eq_nil_iff, h]

end Report

namespace ReportStep

variable {ι : Type} [DecidableEq ι] {reports : ι → Report}

theorem isConsistent_update (h : ∀ name, (reports name).IsConsistent) (on : ι) {r : Report}
    (hr : r.IsConsistent) (name : ι) : (Function.update reports on r name).IsConsistent := by
  by_cases hname : name = on
  · subst hname
    rwa [Function.update_self]
  · rw [Function.update_of_ne hname]
    exact h name

/-- A step leaves no report whose validity contradicts its errors. -/
theorem isConsistent_perform (h : ∀ name, (reports name).IsConsistent) (step : ReportStep ι)
    (name : ι) : (step.perform reports name).IsConsistent := by
  cases step with
  | addError on p => exact isConsistent_update h on (Report.isConsistent_addError _ p) name
  | addWarning on w =>
      have hwarned : ((reports on).addWarning w).IsConsistent := h on
      exact isConsistent_update h on hwarned name
  | addSuggestion on s =>
      have hsuggested : ((reports on).addSuggestion s).IsConsistent := h on
      exact isConsistent_update h on hsuggested name
  | merge on other => exact isConsistent_update h on (h on).merge name

theorem isConsistent_foldl (h : ∀ name, (reports name).IsConsistent)
    (steps : List (ReportStep ι)) (name : ι) :
    (steps.foldl perform reports name).IsConsistent := by
  induction steps generalizing reports with
  | nil => exact h name
  | cons step rest ih => exact ih (isConsistent_perform h step)

theorem isConsistent_run (steps : List (ReportStep ι)) (name : ι) :
    (run steps name).IsConsistent :=
  isConsistent_foldl (fun _ => Report.isConsistent_fresh) steps name

end ReportStep

/-! ### Two lists of declarations -/

theorem DescribesAll.append {items others : List Value} {nodes further : List Declaration}
    (h : DescribesAll items nodes) (h' : DescribesAll others further) :
    DescribesAll (items ++ others) (nodes ++ further) :=
  List.rel_append h h'

theorem DescribesAll.ofForest {items : List Value} {nodes : List Declaration}
    (h : DescribesAll items nodes) : Declaration.ofForest (.list items) = .ok nodes :=
  (Declaration.ofForest_eq_ok_iff _ _).mpr ⟨items, rfl, h⟩

/-! ### Filling one report -/

namespace Report

theorem merge_fresh (r : Report) : r.merge {} = r := by
  simp [merge, hasErrors]

theorem addChecked_merge (r r' : Report) (n : Int) :
    (r.merge r').addChecked n = r.merge (r'.addChecked n) := by
  simp [merge, addChecked, hasErrors, Int.add_assoc]

theorem addError_merge (r r' : Report) (p : Problem) :
    (r.merge r').addError p = r.merge (r'.addError p) := by
  simp [merge, addError, hasErrors]

theorem foldl_addWarning_merge (warnings : List Warning) (r r' : Report) :
    warnings.foldl addWarning (r.merge r') = r.merge (warnings.foldl addWarning r') := by
  simp [foldl_addWarning, merge, hasErrors]

end Report

namespace Outline

mutual

/-- What a report holds before a tree is checked is kept and has no influence on the
check. -/
theorem check_merge (ancestors : List Declaration) (o : Outline) (r r' : Report) :
    check ancestors o (r.merge r') = (check ancestors o r').map r.merge := by
  obtain ⟨d, cs⟩ := o
  rw [check, check, Report.addChecked_merge]
  cases d.validate ancestors with
  | error f =>
      cases f with
      | capture e => simp only [Report.addError_merge, Except.map]
      | host e => rfl
  | ok _ =>
      cases d.hasChildren with
      | true => exact checkAll_merge (ancestors ++ [d]) cs r (r'.addChecked 1)
      | false => simp [Report.foldl_addWarning_merge, Except.map]

theorem checkAll_merge (ancestors : List Declaration) (os : List Outline) (r r' : Report) :
    checkAll ancestors os (r.merge r') = (checkAll ancestors os r').map r.merge := by
  match os with
  | [] => rfl
  | o :: rest =>
      rw [checkAll, checkAll, check_merge ancestors o r r']
      cases check ancestors o r' with
      | error f => rfl
      | ok first => exact checkAll_merge ancestors rest r first

end

/-- Trees after others are checked from what was found in the others. -/
theorem checkAll_append (ancestors : List Declaration) (os further : List Outline) (r : Report) :
    checkAll ancestors (os ++ further) r =
      (checkAll ancestors os r).bind (checkAll ancestors further) := by
  induction os generalizing r with
  | nil => rfl
  | cons o rest ih =>
      rw [List.cons_append, checkAll, checkAll]
      cases check ancestors o r with
      | error f => rfl
      | ok first => exact ih first

end Outline

namespace Report

theorem tellsAsMuch_conclude (r : Report) : r.conclude.TellsAsMuch r := by
  unfold conclude
  split
  · exact ⟨rfl, rfl, rfl, rfl⟩
  · exact ⟨rfl, rfl, rfl, rfl⟩

theorem TellsAsMuch.symm {r r' : Report} (h : r.TellsAsMuch r') : r'.TellsAsMuch r :=
  ⟨h.isValid.symm, h.checked.symm, h.errors.symm, h.warnings.symm⟩

theorem TellsAsMuch.trans {r r' r'' : Report} (h : r.TellsAsMuch r') (h' : r'.TellsAsMuch r'') :
    r.TellsAsMuch r'' :=
  ⟨h.isValid.trans h'.isValid, h.checked.trans h'.checked, h.errors.trans h'.errors,
    h.warnings.trans h'.warnings⟩

theorem TellsAsMuch.merge {r r' other other' : Report} (h : r.TellsAsMuch r')
    (h' : other.TellsAsMuch other') : (r.merge other).TellsAsMuch (r'.merge other') where
  isValid := by rw [Report.merge, Report.merge, hasErrors, hasErrors, h.isValid, h'.errors]
  checked := by rw [Report.merge, Report.merge, h.checked, h'.checked]
  errors := by rw [Report.merge, Report.merge, h.errors, h'.errors]
  warnings := by rw [Report.merge, Report.merge, h.warnings, h'.warnings]

/-- A report on a list of declarations is what the check adds to a fresh report. -/
theorem exists_checkAll_of_ofForest {items : List Value} {nodes : List Declaration}
    (h : DescribesAll items nodes) {r : Report} (hr : ofForest (.list items) = .ok r) :
    ∃ found, Outline.checkAll [] (nodes.map Declaration.outline) {} = .ok found ∧
      r.TellsAsMuch found := by
  simp only [ofForest, h.ofForest] at hr
  cases hfound : Outline.checkAll [] (nodes.map Declaration.outline) {} with
  | error f => simp [hfound] at hr
  | ok found =>
      obtain rfl : found.conclude = r := by simpa [hfound] using hr
      exact ⟨found, rfl, tellsAsMuch_conclude found⟩

theorem exists_ofForest_append {f g : List Value} {roots others : List Declaration}
    (hf : DescribesAll f roots) (hg : DescribesAll g others) {r r' : Report}
    (hr : ofForest (.list f) = .ok r) (hr' : ofForest (.list g) = .ok r') :
    ∃ both, ofForest (.list (f ++ g)) = .ok both ∧ (r.merge r').TellsAsMuch both := by
  obtain ⟨found, hfound, htells⟩ := exists_checkAll_of_ofForest hf hr
  obtain ⟨found', hfound', htells'⟩ := exists_checkAll_of_ofForest hg hr'
  have hboth : Outline.checkAll [] ((roots ++ others).map Declaration.outline) {} =
      .ok (found.merge found') := by
    rw [List.map_append, Outline.checkAll_append, hfound, Except.bind, ← merge_fresh found,
      Outline.checkAll_merge, hfound', merge_fresh, Except.map]
  refine ⟨(found.merge found').conclude, ?_, ?_⟩
  · simp only [ofForest, (hf.append hg).ofForest, hboth]
  · exact (htells.merge htells').trans (tellsAsMuch_conclude _).symm

/-- Whatever is done with reports, each is valid exactly if it has no errors.  The
report on one list of declarations, merged with the report on another, tells as much
as the report on both lists together. -/
theorem merging_composes {ι : Type} [DecidableEq ι] :
    (∀ (steps : List (ReportStep ι)) (name : ι),
        (ReportStep.run steps name).isValid = true ↔ (ReportStep.run steps name).errors = []) ∧
      ∀ f g roots others, DescribesAll f roots → DescribesAll g others →
        ∀ r r', ofForest (.list f) = .ok r → ofForest (.list g) = .ok r' →
          ∃ both, ofForest (.list (f ++ g)) = .ok both ∧ (r.merge r').TellsAsMuch both := by
  refine ⟨ReportStep.isConsistent_run, ?_⟩
  intro f g roots others hf hg r r' hr hr'
  exact exists_ofForest_append hf hg hr hr'

/-- A declaration without keys and a group in the first list, and a leaf with two
locations in the second, which is praised for itself. -/
theorem merging_composes_of_fault_and_warning :
    let f : List Value := [.map [(.str "name", .str "A")],
      .node (.str "G") [(.str "keys", .str "g"), (.str "children", .list [
        .map [(.str "name", .str "B"), (.str "keys", .str "b"), (.str "olp", .int 1)]])]]
    let g : List Value := [.map [(.str "name", .str "C"), (.str "keys", .str "c"),
      (.str "id", .str "x"), (.str "file", .str "c.org")]]
    ∃ r r' both, ofForest (.list f) = .ok r ∧ ofForest (.list g) = .ok r' ∧
      ofForest (.list (f ++ g)) = .ok both ∧ (r.merge r').TellsAsMuch both ∧
      r.errors.length = 2 ∧ r'.warnings.length = 1 ∧ r'.suggestions ≠ both.suggestions := by
  intro f g
  obtain ⟨both, hboth, hmerge⟩ := (@merging_composes String _).2 f g _ _
    (.cons rfl (.cons rfl .nil)) (.cons rfl .nil) _ _ rfl rfl
  refine ⟨_, _, both, rfl, rfl, hboth, hmerge, rfl, rfl, ?_⟩
  obtain rfl := Except.ok.inj hboth
  exact List.cons_ne_nil _ _

end Report

end CaptureForest
