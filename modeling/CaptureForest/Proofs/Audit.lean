import CaptureForest.Declaration.Check
import CaptureForest.Proofs.Rules
import Mathlib.Data.List.Induction

/-!
# Checking along the walk

The check of a forest does not stop at a declaration that fails, but looks at
nothing below it.  What it reaches are the visits all of whose ancestors pass,
and its report is a tally over them: every declaration that is reached counts,
and every one that is reached and fails gives one error, in the order of the
walk.
-/

namespace CaptureForest

/-- Whether the demands on the declaration itself are met. -/
def Declaration.passes (d : Declaration) : Bool :=
  match d.validate [] with
  | .ok _ => true
  | .error _ => false

namespace Visit

def isReached (u : Visit) : Bool := u.ancestors.all Declaration.passes

/-- The error that is reported for a visited declaration, if it fails. -/
def problem? (u : Visit) : Option Problem :=
  match u.node.validate u.ancestors with
  | .error (.capture e) => some (e.toProblem (u.node.path u.ancestors))
  | _ => none

/-- The visited declaration passes, or it fails with an error of the library. -/
def IsReportable (u : Visit) : Prop :=
  u.node.passes = false → ∃ e, u.node.validate u.ancestors = .error (.capture e)

/-- The warnings about a visited declaration; only leaves that pass are
searched for them. -/
def warnings (u : Visit) : List Warning :=
  if u.node.passes && !u.node.hasChildren then u.node.conflicts (u.node.path u.ancestors)
  else []

end Visit

namespace Forest

/-- The visits of a forest that a check reaches. -/
def reached (forest : Value) : List Visit := (visits forest).filter Visit.isReached

/-- The visits of a forest that are reached and fail. -/
def refused (forest : Value) : List Visit := (reached forest).filter fun u => !u.node.passes

end Forest

/-- The report that counts the visits and collects what is said about them. -/
def Report.tally (walk : List Visit) : Report where
  isValid := (walk.filterMap Visit.problem?).isEmpty
  errors := walk.filterMap Visit.problem?
  warnings := walk.flatMap Visit.warnings
  checked := walk.length

/-! ### Passing -/

namespace Declaration

theorem passes_iff (d : Declaration) (ancestors : List Declaration) :
    d.passes = true ↔ d.validate ancestors = .ok () := by
  rw [d.validate_eq_ok_iff_of_ancestors ancestors []]
  unfold passes
  cases d.validate [] <;> simp

theorem passes_iff_isSound {d : Declaration} (hnames : d.HasTextNames) :
    d.passes = true ↔ d.IsSound := by
  rw [passes_iff d [], ← (validate_decides ⟨[], d⟩ hnames).ok_iff]
  exact ⟨fun h => ⟨(), h⟩, fun ⟨⟨⟩, h⟩ => h⟩

theorem exists_error_of_not_passes {u : Visit} (hnames : u.node.HasTextNames)
    (h : u.node.passes = false) :
    ∃ e, u.node.validate u.ancestors = .error (.capture e) := by
  rcases (validate_decides u hnames).met_or_fault with hsound | ⟨e, he⟩
  · rw [← passes_iff_isSound hnames, h] at hsound
    cases hsound
  · exact ⟨e, ((validate_decides u hnames).error_iff _).mpr ⟨e, rfl, he⟩⟩

end Declaration

namespace Visit

theorem isReached_iff (u : Visit) :
    u.isReached = true ↔ ∀ a ∈ u.ancestors, a.passes = true := by
  rw [isReached, List.all_eq_true]

theorem not_isReached_of_mem_below {u w : Visit} (hu : u.node.passes = false)
    (hw : w ∈ u.below) : w.isReached = false := by
  have hmem : u.node ∈ w.ancestors := by
    apply (lineage_prefix_of_mem_below hw).subset
    exact List.mem_append_right _ List.mem_cons_self
  rw [← Bool.not_eq_true, isReached_iff]
  intro hall
  rw [hall u.node hmem] at hu
  cases hu

theorem problem?_of_passes {u : Visit} (h : u.node.passes = true) : u.problem? = none := by
  rw [Declaration.passes_iff _ u.ancestors] at h
  simp [problem?, h]

theorem not_passes_of_error {u : Visit} {f : Fault}
    (h : u.node.validate u.ancestors = .error f) : u.node.passes = false := by
  rw [← Bool.not_eq_true, Declaration.passes_iff _ u.ancestors, h]
  simp

theorem problem?_of_error {u : Visit} {e : CaptureError}
    (h : u.node.validate u.ancestors = .error (.capture e)) :
    u.problem? = some (e.toProblem (u.node.path u.ancestors)) := by
  simp [problem?, h]

end Visit

/-! ### What is reached -/

namespace Forest

theorem isReached_of_split {v : Value} {before after : List Visit} {u : Visit}
    (hsplit : visits v = before ++ u :: after)
    (hbefore : ∀ w ∈ before, w.node.passes = true) : u.isReached = true := by
  rw [Visit.isReached_iff]
  exact forall_ancestors_of_split hsplit hbefore

theorem mem_refused_iff {v : Value} {u : Visit} :
    u ∈ refused v ↔ u ∈ visits v ∧ u.isReached = true ∧ u.node.passes = false := by
  rw [refused, reached, List.mem_filter, List.mem_filter, Bool.not_eq_true', and_assoc]

/-- The first visit that fails is the first that is refused. -/
theorem refused_of_split {v : Value} {before after : List Visit} {u : Visit}
    (hsplit : visits v = before ++ u :: after)
    (hbefore : ∀ w ∈ before, w.node.passes = true) (hu : u.node.passes = false) :
    ∃ rest, refused v = u :: rest := by
  have hfront : (before.filter Visit.isReached).filter (fun w => !w.node.passes) = [] := by
    rw [List.filter_eq_nil_iff]
    intro w hw
    simp [hbefore w (List.mem_of_mem_filter hw)]
  have hreached := isReached_of_split hsplit hbefore
  refine ⟨(after.filter Visit.isReached).filter (fun w => !w.node.passes), ?_⟩
  rw [refused, reached, hsplit, List.filter_append, List.filter_append, hfront,
    List.filter_cons_of_pos hreached, List.filter_cons_of_pos (by simp [hu]), List.nil_append]

/-- If nothing is refused then all visits pass. -/
theorem refused_eq_nil_iff (v : Value) :
    refused v = [] ↔ ∀ u ∈ visits v, u.node.passes = true := by
  constructor
  · intro hnone
    -- the ancestors of a visit come before it, so the visits pass one after another
    have hstep : ∀ before after, visits v = before ++ after →
        ∀ w ∈ before, w.node.passes = true := by
      intro before
      induction before using List.reverseRecOn with
      | nil => simp
      | append_singleton before u ih =>
          intro after hsplit w hw
          rw [List.append_assoc, List.singleton_append] at hsplit
          have hbefore := ih (u :: after) hsplit
          rcases List.mem_append.mp hw with hw | hw
          · exact hbefore w hw
          · rw [List.mem_singleton] at hw
            rw [hw]
            by_contra hu
            obtain ⟨rest, hrest⟩ :=
              refused_of_split hsplit hbefore (Bool.not_eq_true _ ▸ hu)
            rw [hnone] at hrest
            cases hrest
    exact hstep (visits v) [] (List.append_nil _).symm
  · intro hall
    rw [List.eq_nil_iff_forall_not_mem]
    intro u hu
    rw [mem_refused_iff] at hu
    simp [hall u hu.1] at hu

theorem reached_eq_visits {v : Value} (hall : ∀ u ∈ visits v, u.node.passes = true) :
    reached v = visits v := by
  rw [reached, List.filter_eq_self]
  intro u hu
  rw [Visit.isReached_iff]
  intro a ha
  exact forall_lineage (P := fun d => d.passes = true) hall hu a (List.mem_append_left _ ha)

end Forest

/-! ### Reported errors -/

/-- A reported error tells all that an error has to say. -/
structure Problem.Tells (p : Problem) (e : CaptureError) : Prop where
  code : p.code = e.code
  message : p.message = e.message
  fix : p.fix = some e.fix

/-- The error that is reported for a visited declaration that fails: it is named
by the names from the root down. -/
structure Visit.Reports (u : Visit) (p : Problem) : Prop where
  path : p.path = .str (String.intercalate "/" (u.lineage.map fun d => d.name.plain))
  tells : ∃ e, u.node.validate u.ancestors = .error (.capture e) ∧ p.Tells e

theorem CaptureError.tells_toProblem {e : CaptureError} (h : e.fix.isAbsent = false)
    (path : String) : (e.toProblem path).Tells e :=
  ⟨rfl, rfl, by simp [toProblem, h]⟩

theorem ForestFault.fix_isAbsent {v : Value} {e : CaptureError} (h : ForestFault v e) :
    e.fix.isAbsent = false := by
  cases h <;> rfl

/-- Every error about a declaration comes with advice. -/
theorem Violation.fix_isAbsent {u : Visit} {e : CaptureError} (h : Violation u e) :
    e.fix.isAbsent = false := by
  cases h with
  | keys => rfl
  | name => rfl
  | parent _ _ h =>
      cases h with
      | extra => rfl
      | children _ h => cases h <;> rfl
  | leaf _ _ h => cases h <;> rfl

theorem Visit.reports_of_error {u : Visit} (hnames : u.node.HasTextNames) {e : CaptureError}
    (h : u.node.validate u.ancestors = .error (.capture e)) :
    u.Reports (e.toProblem (u.node.path u.ancestors)) := by
  obtain ⟨e', he', hviolation⟩ := ((Declaration.validate_decides u hnames).error_iff _).mp h
  obtain rfl : e = e' := Fault.capture.inj he'
  exact ⟨rfl, e, h, CaptureError.tells_toProblem hviolation.fix_isAbsent _⟩

theorem Visit.reports_filterMap {walk : List Visit}
    (hnames : ∀ u ∈ walk, u.node.HasTextNames) :
    List.Forall₂ Visit.Reports (walk.filter fun u => !u.node.passes)
      (walk.filterMap Visit.problem?) := by
  induction walk with
  | nil => exact .nil
  | cons u rest ih =>
      have hrest := ih fun w hw => hnames w (List.mem_cons_of_mem u hw)
      have hu := hnames u List.mem_cons_self
      cases hpasses : u.node.passes with
      | true =>
          rw [List.filter_cons_of_neg (by simp [hpasses]),
            List.filterMap_cons_none (problem?_of_passes hpasses)]
          exact hrest
      | false =>
          obtain ⟨e, he⟩ := Declaration.exists_error_of_not_passes hu hpasses
          rw [List.filter_cons_of_pos (by simp [hpasses]),
            List.filterMap_cons_some (problem?_of_error he)]
          exact .cons (reports_of_error hu he) hrest

/-! ### Tallies -/

namespace Report

theorem merge_assoc (r r' r'' : Report) : (r.merge r').merge r'' = r.merge (r'.merge r'') := by
  cases herrors : r'.errors <;> simp [merge, hasErrors, herrors, Int.add_assoc]

theorem foldl_addWarning (warnings : List Warning) (r : Report) :
    warnings.foldl addWarning r = { r with warnings := r.warnings ++ warnings } := by
  induction warnings generalizing r with
  | nil => simp
  | cons w rest ih => rw [List.foldl_cons, ih, addWarning, List.append_assoc, List.singleton_append]

theorem tally_append (walk others : List Visit) :
    tally (walk ++ others) = (tally walk).merge (tally others) := by
  simp only [tally, List.filterMap_append]
  cases walk.filterMap Visit.problem? <;> simp [merge, hasErrors]

theorem tally_cons (u : Visit) (rest : List Visit) :
    tally (u :: rest) = (tally [u]).merge (tally rest) :=
  tally_append [u] rest

theorem tally_of_error {u : Visit} {e : CaptureError}
    (h : u.node.validate u.ancestors = .error (.capture e)) :
    tally [u] = { isValid := false
                  errors := [e.toProblem (u.node.path u.ancestors)]
                  checked := 1 } := by
  simp [tally, Visit.problem?_of_error h, Visit.warnings, Visit.not_passes_of_error h]

theorem tally_of_passes {u : Visit} (h : u.node.passes = true) :
    tally [u] = { warnings := u.warnings, checked := 1 } := by
  simp [tally, Visit.problem?_of_passes h]

end Report

/-! ### The report on a forest -/

namespace Visit

theorem check_of_fails {u : Visit} (hreportable : u.IsReportable)
    (h : u.node.passes = false) (r : Report) :
    u.node.outline.check u.ancestors r = .ok (r.merge (Report.tally [u])) := by
  obtain ⟨e, he⟩ := hreportable h
  rw [Declaration.outline_eq, Outline.check, he, Report.tally_of_error he]
  simp [Report.merge, Report.addError, Report.addChecked, Report.hasErrors]

theorem check_of_passes {u : Visit} (h : u.node.passes = true) {below : Report}
    (hbelow : ∀ r, Outline.checkAll u.lineage (u.node.children.map Declaration.outline) r =
      .ok (r.merge below)) (r : Report) :
    u.node.outline.check u.ancestors r = .ok (r.merge ((Report.tally [u]).merge below)) := by
  have hvalidate := (Declaration.passes_iff u.node u.ancestors).mp h
  rw [Declaration.outline_eq, Outline.check, hvalidate, Report.tally_of_passes h]
  cases hchildren : u.node.hasChildren with
  | true =>
      have hwarnings : u.warnings = [] := by
        simp [warnings, hchildren]
      rw [lineage] at hbelow
      simp only [hbelow, hwarnings, if_true, ← Report.merge_assoc]
      simp [Report.merge, Report.addChecked, Report.hasErrors]
  | false =>
      have hwarnings : u.warnings = u.node.conflicts (u.node.path u.ancestors) := by
        simp [warnings, hchildren, h]
      rw [Declaration.children_of_not_hasChildren hchildren] at hbelow
      have hnothing : ∀ r : Report, r.merge below = r := fun r => (Except.ok.inj (hbelow r)).symm
      rw [← Report.merge_assoc, hnothing, if_neg Bool.false_ne_true]
      simp [hwarnings, Report.foldl_addWarning, Report.merge, Report.addChecked, Report.hasErrors]

end Visit

namespace Outline

theorem checkAll_eq_tally {ancestors nodes : List Declaration}
    {walk : Declaration → List Visit}
    (h : ∀ d ∈ nodes, ∀ r, d.outline.check ancestors r = .ok (r.merge (Report.tally (walk d))))
    (r : Report) :
    checkAll ancestors (nodes.map Declaration.outline) r =
      .ok (r.merge (Report.tally (nodes.flatMap walk))) := by
  induction nodes generalizing r with
  | nil => simp [checkAll, Report.tally, Report.merge, Report.hasErrors]
  | cons d rest ih =>
      have hrest := ih fun d' hd' => h d' (List.mem_cons_of_mem d hd')
      rw [List.map_cons, checkAll, h d List.mem_cons_self, List.flatMap_cons,
        Report.tally_append]
      simp only [hrest, Report.merge_assoc]

/-- The check of a tree adds the tally of what is reached in it. -/
theorem check_eq_tally {d : Declaration} {ancestors : List Declaration}
    (hpass : ∀ a ∈ ancestors, a.passes = true)
    (hreportable : ∀ u ∈ (d.visits ancestors).filter Visit.isReached, u.IsReportable)
    (r : Report) :
    d.outline.check ancestors r =
      .ok (r.merge (Report.tally ((d.visits ancestors).filter Visit.isReached))) := by
  induction d using Declaration.induction generalizing ancestors r with
  | step d ih =>
      let u : Visit := ⟨ancestors, d⟩
      have hreached : u.isReached = true := u.isReached_iff.mpr hpass
      rw [Declaration.visits_eq_cons_below, List.filter_cons_of_pos hreached] at hreportable ⊢
      rw [Report.tally_cons]
      cases hd : d.passes with
      | false =>
          -- the check stops here, and the filter drops all that lies below
          have hbelow : u.below.filter Visit.isReached = [] := by
            rw [List.filter_eq_nil_iff]
            intro w hw
            rw [Visit.not_isReached_of_mem_below hd hw]
            exact Bool.false_ne_true
          rw [hbelow, ← Report.tally_cons]
          exact Visit.check_of_fails (u := u) (hreportable u List.mem_cons_self) hd r
      | true =>
          apply Visit.check_of_passes (u := u) hd
          have hlineage : ∀ a ∈ u.lineage, a.passes = true := by
            intro a ha
            rcases List.mem_append.mp ha with ha | ha
            · exact hpass a ha
            · rw [List.mem_singleton] at ha
              rw [ha]
              exact hd
          rw [Visit.below, List.filter_flatMap] at hreportable ⊢
          refine fun r => checkAll_eq_tally (fun child hchild r => ?_) r
          refine ih child hchild hlineage ?_ r
          intro w hw
          exact hreportable w
            (List.mem_cons_of_mem _ (List.mem_flatMap.mpr ⟨child, hchild, hw⟩))

end Outline

namespace Report

theorem ofForest_of_error {v : Value} {e : CaptureError}
    (h : Declaration.ofForest v = .error e) :
    ofForest v = .ok (addError {} (e.toProblem "forest")) := by
  simp only [ofForest, h]

theorem ofForest_eq_tally {v : Value} {roots : List Declaration}
    (h : Declaration.ofForest v = .ok roots)
    (hreportable : ∀ u ∈ Forest.reached v, u.IsReportable) :
    ofForest v = .ok (tally (Forest.reached v)).conclude := by
  have hall : Outline.checkAll [] (roots.map Declaration.outline) {} =
      .ok (merge {} (tally (Forest.reached v))) := by
    rw [Forest.reached, Forest.visits_of_ofForest h, List.filter_flatMap] at hreportable ⊢
    refine Outline.checkAll_eq_tally (fun d hd r => ?_) {}
    refine Outline.check_eq_tally (fun a ha => by cases ha) ?_ r
    intro u hu
    exact hreportable u (List.mem_flatMap.mpr ⟨d, hd, hu⟩)
  have hfresh : merge {} (tally (Forest.reached v)) = tally (Forest.reached v) := by
    simp [merge, tally, hasErrors]
  simp only [ofForest, h, hall, hfresh]

theorem ofForest_of_ok {v : Value} {roots : List Declaration}
    (h : Declaration.ofForest v = .ok roots)
    (hnames : ∀ u ∈ Forest.visits v, u.node.HasTextNames) :
    ofForest v = .ok (tally (Forest.reached v)).conclude := by
  refine ofForest_eq_tally h fun u hu => ?_
  exact Declaration.exists_error_of_not_passes (hnames u (List.mem_of_mem_filter hu))

@[simp] theorem errors_conclude (r : Report) : r.conclude.errors = r.errors := by
  unfold conclude
  split <;> rfl

@[simp] theorem checked_conclude (r : Report) : r.conclude.checked = r.checked := by
  unfold conclude
  split <;> rfl

end Report

end CaptureForest
