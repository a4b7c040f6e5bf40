import CaptureForest.Proofs.Audit
import CaptureForest.Proofs.Compilation

/-!
# Errors that cannot be reported

The error about a parent with attributes of its own lists their names.  A name
may be any value, and one that is no text cannot be listed: the error itself
fails then, with a fault of the host.  No other declaration makes a check or a
compilation fail with anything but an error of the library.

The check of a forest fails in this way exactly if it reaches such a parent, and
a compilation exactly if such a parent is the first declaration that it cannot
compile.
-/

namespace CaptureForest

/-- A parent with keys and a name whose violation cannot be put into words: the
name of one of its attributes is no text. -/
structure Declaration.IsUnreportable (d : Declaration) : Prop where
  label : d.IsLabelled
  parent : d.hasChildren = true
  names : ¬ d.HasTextNames

theorem Decides.ne_host {α : Type} {check : Except Fault α} {demand : Prop}
    {fault : CaptureError → Prop} (h : Decides check demand fault) (e : HostFault) :
    check ≠ .error (.host e) := by
  intro hcheck
  obtain ⟨e', he', -⟩ := (h.error_iff _).mp hcheck
  cases he'

/-! ### One declaration -/

theorem Value.isText_of_mapM_text? {items : List Value} {words : List String}
    (h : items.mapM text? = some words) : ∀ item ∈ items, item.isText = true := by
  rw [mapM_text?_eq_some_iff] at h
  have hall : List.Forall₂ (fun item _ => item.isText = true ∧ True) items words := by
    refine h.imp fun item word hword => ⟨?_, trivial⟩
    exact (isText_iff item).mpr ⟨word, hword⟩
  exact ((List.forall₂_and_left items words).mp hall).1

namespace Declaration

theorem mem_extraAttributes_of_not_isText {d : Declaration} {name : Value}
    (hname : name ∈ Pairs.keys d.attributes) (htext : name.isText = false) :
    name ∈ d.extraAttributes := by
  have hamong : name.isAmong Keyword.structural = false := by
    rw [← Bool.not_eq_true, Value.isAmong_iff]
    rintro ⟨word, -, hword⟩
    rw [(Value.isText_iff name).mpr ⟨word, hword⟩] at htext
    cases htext
  exact List.mem_filter.mpr ⟨hname, by rw [hamong]; rfl⟩

/-- The message about the attributes of a parent cannot be made up if one of its
names is no text. -/
theorem checkParent_of_not_hasTextNames {d : Declaration} (h : ¬ d.HasTextNames) :
    d.checkParent = .error .wrongType := by
  unfold HasTextNames at h
  push Not at h
  obtain ⟨name, hname, htext⟩ := h
  rw [ne_eq, Bool.not_eq_true] at htext
  have hextra := mem_extraAttributes_of_not_isText hname htext
  have hlist : listNames d.extraAttributes = .error .wrongType := by
    unfold listNames
    cases hwords : d.extraAttributes.mapM Value.text? with
    | none => rfl
    | some words =>
        rw [Value.isText_of_mapM_text? hwords name hextra] at htext
        cases htext
  unfold checkParent
  split
  · rename_i hnil
    rw [hnil] at hextra
    cases hextra
  · rw [hlist]

theorem validate_of_isUnreportable {d : Declaration} (h : d.IsUnreportable)
    (ancestors : List Declaration) : d.validate ancestors = .error .wrongType := by
  rw [validate_of_isLabelled h.label, if_pos h.parent]
  exact checkParent_of_not_hasTextNames h.names

/-- Checking a declaration succeeds or fails with an error of the library, unless
that error cannot be reported. -/
theorem validate_ne_host {d : Declaration} (h : ¬ d.IsUnreportable)
    (ancestors : List Declaration) (e : HostFault) :
    d.validate ancestors ≠ .error (.host e) := by
  by_cases hnames : d.HasTextNames
  · exact (validate_decides ⟨ancestors, d⟩ hnames).ne_host e
  · by_cases hlabel : d.IsLabelled
    · rw [validate_of_isLabelled hlabel]
      cases hchildren : d.hasChildren with
      | true => exact absurd ⟨hlabel, hchildren, hnames⟩ h
      | false => exact (checkLeaf_decides d).ne_host e
    · -- without keys or a name nothing is asked about the other attributes
      unfold validate
      cases hkeys : d.keys? with
      | none => simp
      | some k =>
          have hname : d.name.isAbsent = true := by
            rw [Value.isAbsent_iff]
            by_contra hname
            exact hlabel ⟨(hasKeys_iff d).mpr ⟨k, hkeys⟩, hname⟩
          simp [hname]

theorem validate_eq_host_iff (d : Declaration) (ancestors : List Declaration) (e : HostFault) :
    d.validate ancestors = .error (.host e) ↔
      Fault.host e = .wrongType ∧ d.IsUnreportable := by
  constructor
  · intro h
    by_cases hd : d.IsUnreportable
    · rw [validate_of_isUnreportable hd] at h
      exact ⟨(Except.error.inj h).symm, hd⟩
    · exact absurd h (validate_ne_host hd ancestors e)
  · rintro ⟨he, hd⟩
    rw [validate_of_isUnreportable hd, he]

theorem not_passes_of_isUnreportable {d : Declaration} (h : d.IsUnreportable) :
    d.passes = false :=
  Visit.not_passes_of_error (u := ⟨[], d⟩) (validate_of_isUnreportable h [])

end Declaration

theorem Visit.isReportable_of_not_isUnreportable {u : Visit} (h : ¬ u.node.IsUnreportable) :
    u.IsReportable := by
  intro hfails
  cases hvalidate : u.node.validate u.ancestors with
  | ok _ =>
      rw [(u.node.passes_iff u.ancestors).mpr hvalidate] at hfails
      cases hfails
  | error f =>
      cases f with
      | capture e => exact ⟨e, rfl⟩
      | host e => exact absurd hvalidate (Declaration.validate_ne_host h u.ancestors e)

/-! ### The check of a forest -/

/-- Some declaration of the walk cannot be reported. -/
def MeetsUnreportable (walk : List Visit) : Prop := ∃ u ∈ walk, u.node.IsUnreportable

theorem meetsUnreportable_cons (u : Visit) (rest : List Visit) :
    MeetsUnreportable (u :: rest) ↔ u.node.IsUnreportable ∨ MeetsUnreportable rest := by
  unfold MeetsUnreportable
  rw [List.exists_mem_cons_iff]

theorem meetsUnreportable_append (walk others : List Visit) :
    MeetsUnreportable (walk ++ others) ↔ MeetsUnreportable walk ∨ MeetsUnreportable others := by
  unfold MeetsUnreportable
  simp only [List.mem_append, or_and_right, exists_or]

namespace Outline

theorem checkAll_eq_error_iff {ancestors nodes : List Declaration}
    {walk : Declaration → List Visit}
    (h : ∀ d ∈ nodes, ∀ r f, d.outline.check ancestors r = .error f ↔
      f = .wrongType ∧ MeetsUnreportable (walk d)) (r : Report) (f : Fault) :
    checkAll ancestors (nodes.map Declaration.outline) r = .error f ↔
      f = .wrongType ∧ MeetsUnreportable (nodes.flatMap walk) := by
  induction nodes generalizing r with
  | nil => simp [checkAll, MeetsUnreportable]
  | cons d rest ih =>
      have hfirst := h d List.mem_cons_self r
      have hrest := ih fun d' hd' => h d' (List.mem_cons_of_mem d hd')
      rw [List.map_cons, checkAll, List.flatMap_cons, meetsUnreportable_append, and_or_left,
        ← hfirst f]
      cases hcheck : d.outline.check ancestors r with
      | error e =>
          -- a later failure is the same fault
          obtain ⟨rfl, -⟩ := (hfirst e).mp hcheck
          simp only [Except.error.injEq]
          constructor
          · rintro rfl
            exact .inl rfl
          · rintro (hf | hf)
            · exact hf
            · exact hf.1.symm
      | ok first => simp [hrest first]

end Outline

/-- The check of a visited declaration fails if it cannot be reported, or if it
passes and the check of what lies below it fails. -/
theorem Visit.check_eq_error_iff (u : Visit) (r : Report) (f : Fault) :
    u.node.outline.check u.ancestors r = .error f ↔
      f = .wrongType ∧ u.node.IsUnreportable ∨
        u.node.passes = true ∧
          Outline.checkAll u.lineage (u.node.children.map Declaration.outline) (r.addChecked 1) =
            .error f := by
  rw [Declaration.outline_eq, Outline.check]
  cases hvalidate : u.node.validate u.ancestors with
  | error fault =>
      have hfails := not_passes_of_error hvalidate
      cases fault with
      | capture e =>
          have hreportable : ¬ u.node.IsUnreportable := by
            intro hu
            rw [Declaration.validate_of_isUnreportable hu] at hvalidate
            cases hvalidate
          simp [hfails, hreportable]
      | host e =>
          obtain ⟨he, hu⟩ := (u.node.validate_eq_host_iff u.ancestors e).mp hvalidate
          simp only [he, hfails, hu, Except.error.injEq, Bool.false_eq_true, false_and, or_false,
            and_true]
          exact eq_comm
  | ok _ =>
      have hpasses := (u.node.passes_iff u.ancestors).mpr hvalidate
      have hreportable : ¬ u.node.IsUnreportable := by
        intro hu
        rw [Declaration.not_passes_of_isUnreportable hu] at hpasses
        cases hpasses
      simp only [hreportable, and_false, false_or, hpasses, true_and]
      cases hchildren : u.node.hasChildren with
      | true =>
          simp only [if_true, lineage]
      | false =>
          rw [Declaration.children_of_not_hasChildren hchildren]
          simp [Outline.checkAll]

namespace Outline

/-- The check of a tree fails exactly if it reaches a declaration that cannot be
reported. -/
theorem check_eq_error_iff {d : Declaration} {ancestors : List Declaration}
    (hpass : ∀ a ∈ ancestors, a.passes = true) (r : Report) (f : Fault) :
    d.outline.check ancestors r = .error f ↔
      f = .wrongType ∧ MeetsUnreportable ((d.visits ancestors).filter Visit.isReached) := by
  induction d using Declaration.induction generalizing ancestors r f with
  | step d ih =>
      have hreached : Visit.isReached ⟨ancestors, d⟩ = true := (Visit.isReached_iff _).mpr hpass
      rw [Visit.check_eq_error_iff ⟨ancestors, d⟩ r f, Declaration.visits_eq_cons_below,
        List.filter_cons_of_pos hreached, meetsUnreportable_cons, and_or_left]
      refine or_congr_right ?_
      cases hd : d.passes with
      | false =>
          -- the check stops here, and the filter drops all that lies below
          have hbelow : (Visit.below ⟨ancestors, d⟩).filter Visit.isReached = [] := by
            rw [List.filter_eq_nil_iff]
            intro w hw
            rw [Visit.not_isReached_of_mem_below hd hw]
            exact Bool.false_ne_true
          simp [hbelow, MeetsUnreportable]
      | true =>
          have hlineage : ∀ a ∈ ancestors ++ [d], a.passes = true := by
            intro a ha
            rcases List.mem_append.mp ha with ha | ha
            · exact hpass a ha
            · rw [List.mem_singleton] at ha
              rw [ha]
              exact hd
          rw [Visit.below, List.filter_flatMap, eq_self_iff_true, true_and]
          exact checkAll_eq_error_iff (fun child hchild => ih child hchild hlineage) _ f

end Outline

/-! ### Whole forests -/

variable {plan : Plan} {v : Value}

namespace Report

theorem ofForest_eq_error_iff (v : Value) (f : Fault) :
    ofForest v = .error f ↔ f = .wrongType ∧ MeetsUnreportable (Forest.reached v) := by
  cases hroots : Declaration.ofForest v with
  | error e => simp [ofForest_of_error hroots, Forest.reached, Forest.visits, hroots,
      MeetsUnreportable]
  | ok roots =>
      have hall := @Outline.checkAll_eq_error_iff [] roots
        (fun d => (d.visits []).filter Visit.isReached)
        (fun d _ => Outline.check_eq_error_iff (by simp)) {} f
      rw [← List.filter_flatMap, ← Forest.visits_of_ofForest hroots] at hall
      rw [Forest.reached, ← hall]
      simp only [ofForest, hroots]
      cases Outline.checkAll [] (roots.map Declaration.outline) {} <;> simp

/-- A check that does not fail gives the tally over what it reaches. -/
theorem eq_tally_of_ofForest {v : Value} {roots : List Declaration} {r : Report}
    (hroots : Declaration.ofForest v = .ok roots) (h : ofForest v = .ok r) :
    r = (tally (Forest.reached v)).conclude := by
  have hreportable : ∀ u ∈ Forest.reached v, u.IsReportable := by
    intro u hu
    refine Visit.isReportable_of_not_isUnreportable fun hunreportable => ?_
    have hfails := (ofForest_eq_error_iff v .wrongType).mpr ⟨rfl, u, hu, hunreportable⟩
    rw [h] at hfails
    cases hfails
  rw [ofForest_eq_tally hroots hreportable] at h
  exact (Except.ok.inj h).symm

end Report

/-- Compiling a declaration by itself fails with a fault of the host exactly if
it cannot be reported. -/
theorem Visit.entry_eq_host_iff (u : Visit) (defaultType : EntryType) (e : HostFault) :
    u.entry defaultType = .error (.host e) ↔
      Fault.host e = .wrongType ∧ u.node.IsUnreportable := by
  rw [← u.node.validate_eq_host_iff u.ancestors, entry]
  cases hvalidate : u.node.validate u.ancestors with
  | error f => simp
  | ok _ =>
      simp only [reduceCtorEq, iff_false]
      cases hchildren : u.node.hasChildren with
      | true => simp
      | false =>
          obtain ⟨t, ht⟩ := Declaration.exists_template
            (Declaration.hasSoundTexts_of_validate hvalidate hchildren)
          unfold Declaration.leaf Declaration.entryType
          cases hbare : u.node.isBare with
          | true => simp [hchildren, ht]
          | false =>
              cases hset : u.node.sets "type" with
              | false => simp [hchildren, ht]
              | true => cases EntryType.ofValue (u.node.get "type") <;> simp [hchildren, ht]

namespace Compile

theorem forest_eq_host_iff (hplan : plan.IsUnsorted) (v : Value) (e : HostFault) :
    forest plan v = .error (.host e) ↔
      Fault.host e = .wrongType ∧
        ∃ before u after, Forest.visits v = before ++ u :: after ∧
          (∀ w ∈ before, ∃ entry, w.entry plan.defaultType = .ok entry) ∧
            u.node.IsUnreportable := by
  cases hroots : Declaration.ofForest v with
  | error f => simp [forest, Forest.visits, hroots]
  | ok roots =>
      rw [forest_eq_error_iff hplan hroots]
      constructor
      · rintro ⟨before, u, after, hsplit, hbefore, hu⟩
        obtain ⟨he, hu⟩ := (u.entry_eq_host_iff plan.defaultType e).mp hu
        exact ⟨he, before, u, after, hsplit, hbefore, hu⟩
      · rintro ⟨he, before, u, after, hsplit, hbefore, hu⟩
        exact ⟨before, u, after, hsplit, hbefore,
          (u.entry_eq_host_iff plan.defaultType e).mpr ⟨he, hu⟩⟩

/-- Checking a forest gives a report and compiling it succeeds or fails with an
error of the library, except where an error cannot be reported: the check fails
if it reaches such a declaration, and the compilation if all before such a
declaration is compiled. -/
theorem fails_by_host_iff_unreportable (hplan : plan.IsUnsorted) :
    (∀ f, Report.ofForest v = .error f ↔
      f = .wrongType ∧ ∃ u ∈ Forest.reached v, u.node.IsUnreportable) ∧
    (∀ e, forest plan v = .error (.host e) ↔
      Fault.host e = .wrongType ∧
        ∃ before u after, Forest.visits v = before ++ u :: after ∧
          (∀ w ∈ before, ∃ entry, w.entry plan.defaultType = .ok entry) ∧
            u.node.IsUnreportable) ∧
    ((∀ u ∈ Forest.visits v, u.node.hasChildren = true → u.node.HasTextNames) →
      (∃ r, Report.ofForest v = .ok r) ∧
        ((∃ c, forest plan v = .ok c) ∨ ∃ e, forest plan v = .error (.capture e))) := by
  refine ⟨Report.ofForest_eq_error_iff v, forest_eq_host_iff hplan v, ?_⟩
  intro hnames
  have hreportable : ∀ u ∈ Forest.visits v, ¬ u.node.IsUnreportable := by
    intro u hu hunreportable
    exact hunreportable.names (hnames u hu hunreportable.parent)
  constructor
  · cases hreport : Report.ofForest v with
    | ok r => exact ⟨r, rfl⟩
    | error f =>
        obtain ⟨-, u, hu, hunreportable⟩ := (Report.ofForest_eq_error_iff v f).mp hreport
        exact absurd hunreportable (hreportable u (List.mem_of_mem_filter hu))
  · cases hcompiled : forest plan v with
    | ok c => exact .inl ⟨c, rfl⟩
    | error f =>
        cases f with
        | capture e => exact .inr ⟨e, rfl⟩
        | host e =>
            obtain ⟨-, before, u, after, hsplit, -, hunreportable⟩ :=
              (forest_eq_host_iff hplan v e).mp hcompiled
            exact absurd hunreportable (hreportable u (Forest.mem_visits_of_split hsplit))

/-- A leaf may have an attribute whose name is a number, and the group beside it
has faults that can be reported. -/
theorem fails_by_host_iff_unreportable_of_leaf :
    let v : Value := .list [
      .map [(.str "name", .str "Todo"), (.str "keys", .str "t"), (.int 1, .str "x")],
      .map [(.str "name", .str "Tasks"), (.str "keys", .str "k"), (.str "file", .str "a.org"),
        (.str "children", .list [.map []])]]
    (∃ r, Report.ofForest v = .ok r) ∧
      ((∃ c, forest {} v = .ok c) ∨ ∃ e, forest {} v = .error (.capture e)) :=
  (@fails_by_host_iff_unreportable {} _ ⟨rfl, rfl⟩).2.2 (by decide +kernel)

/-- A group with an attribute whose name is a number is neither reported nor
refused with an error of the library. -/
theorem wrongType_of_number_beside_children :
    let v : Value := .list [.map [(.str "name", .str "A"), (.str "keys", .str "a"),
      (.str "children", .list [.map [(.str "name", .str "B"), (.str "keys", .str "b")]]),
      (.int 1, .str "x")]]
    Report.ofForest v = .error .wrongType ∧ forest {} v = .error .wrongType :=
  ⟨rfl, rfl⟩

end Compile

end CaptureForest
