import CaptureForest.Proofs.Audit
import CaptureForest.Proofs.Compilation

/-!
# Where the check and the compilation agree

The check of a forest and its compilation walk the same way, but the check goes
on after an error and the compilation stops.  They see the same errors: the
first that is reported is the one that stops the compilation.  Only the type of
a leaf is no matter of the check, so a forest that is reported to be valid still
fails to compile at the first leaf whose type is unknown.
-/

namespace CaptureForest

variable {plan : Plan} {v : Value}

theorem Visit.passes_of_entry {defaultType : EntryType} {u : Visit} {e : Entry}
    (h : u.entry defaultType = .ok e) : u.node.passes = true :=
  (u.node.passes_iff u.ancestors).mpr (validate_of_entry h)

theorem Report.exists_ofForest (hnames : ∀ u ∈ Forest.visits v, u.node.HasTextNames) :
    ∃ r, ofForest v = .ok r := by
  cases hroots : Declaration.ofForest v with
  | error e => exact ⟨_, ofForest_of_error hroots⟩
  | ok roots => exact ⟨_, ofForest_of_ok hroots hnames⟩

namespace Report

theorem errors_of_ok {roots : List Declaration} (hroots : Declaration.ofForest v = .ok roots)
    (hnames : ∀ u ∈ Forest.visits v, u.node.HasTextNames) {r : Report}
    (hr : ofForest v = .ok r) :
    List.Forall₂ Visit.Reports (Forest.refused v) r.errors ∧
      r.checked = (Forest.reached v).length := by
  rw [ofForest_of_ok hroots hnames] at hr
  obtain rfl := Except.ok.inj hr
  rw [errors_conclude, checked_conclude]
  refine ⟨Visit.reports_filterMap ?_, rfl⟩
  intro u hu
  exact hnames u (List.mem_of_mem_filter hu)

theorem errors_of_compiled (hplan : plan.IsUnsorted)
    (hnames : ∀ u ∈ Forest.visits v, u.node.HasTextNames) {r : Report}
    (hr : ofForest v = .ok r) {c : Compilation} (hc : Compile.forest plan v = .ok c) :
    r.errors = [] ∧ r.checked = c.entries.length := by
  have hentries := Compile.entries_of_ok hplan hc
  cases hroots : Declaration.ofForest v with
  | error e => simp [Compile.forest, hroots] at hc
  | ok roots =>
      have hall : ∀ u ∈ Forest.visits v, u.node.passes = true := by
        intro u hu
        obtain ⟨e, he⟩ := (Compile.exists_forest_ok_iff hplan hroots).mp ⟨c, hc⟩ u hu
        exact Visit.passes_of_entry he
      obtain ⟨herrors, hchecked⟩ := errors_of_ok hroots hnames hr
      rw [(Forest.refused_eq_nil_iff v).mpr hall, List.forall₂_nil_left_iff] at herrors
      rw [Forest.reached_eq_visits hall, hentries.length_eq] at hchecked
      exact ⟨herrors, hchecked⟩

/-- The first reported error is the one that stops the compilation, unless that
is about a type. -/
theorem first_error_of_failed (hplan : plan.IsUnsorted)
    (hnames : ∀ u ∈ Forest.visits v, u.node.HasTextNames) {r : Report}
    (hr : ofForest v = .ok r) {f : Fault} (hf : Compile.forest plan v = .error f)
    (hcode : ∀ e, f = .capture e → e.code ≠ .str "USER_INVALID_TYPE") :
    ∃ e p rest, f = .capture e ∧ r.errors = p :: rest ∧ p.Tells e := by
  cases hroots : Declaration.ofForest v with
  | error e =>
      rw [ofForest_of_error hroots] at hr
      obtain rfl := Except.ok.inj hr
      have he : f = .capture e := by
        simpa [Compile.forest, hroots] using hf.symm
      have hfault := (Declaration.ofForest_eq_error_iff v e).mp hroots
      exact ⟨e, _, [], he, rfl, CaptureError.tells_toProblem hfault.fix_isAbsent _⟩
  | ok roots =>
      obtain ⟨before, u, after, hsplit, hbefore, hu⟩ :=
        (Compile.forest_eq_error_iff hplan hroots f).mp hf
      have hnamesU : u.node.HasTextNames := hnames u (Forest.mem_visits_of_split hsplit)
      obtain ⟨e, rfl, hoffence⟩ :=
        ((Visit.entry_decides plan.defaultType u hnamesU).error_iff f).mp hu
      cases hoffence with
      | type => exact absurd rfl (hcode _ rfl)
      | violation hviolation =>
          have herror := ((Declaration.validate_decides u hnamesU).error_iff _).mpr
            ⟨e, rfl, hviolation⟩
          -- all before the offender pass, so it is the first that the check refuses
          have hpass : ∀ w ∈ before, w.node.passes = true := by
            intro w hw
            obtain ⟨e', he'⟩ := hbefore w hw
            exact Visit.passes_of_entry he'
          obtain ⟨rest, hrefused⟩ := Forest.refused_of_split hsplit hpass
            (Visit.not_passes_of_error herror)
          obtain ⟨herrors, -⟩ := errors_of_ok hroots hnames hr
          rw [hrefused, List.forall₂_cons_left_iff] at herrors
          obtain ⟨p, others, hreports, -, hp⟩ := herrors
          obtain ⟨e', he', htells⟩ := hreports.tells
          rw [herror] at he'
          obtain rfl : e = e' := Fault.capture.inj (Except.error.inj he')
          exact ⟨e, p, others, rfl, hp, htells⟩

/-- The report on a forest and its compilation see the same errors. -/
theorem agrees_with_compilation (hplan : plan.IsUnsorted)
    (hnames : ∀ u ∈ Forest.visits v, u.node.HasTextNames) :
    ∃ r, ofForest v = .ok r ∧
      (∀ c, Compile.forest plan v = .ok c →
        r.errors = [] ∧ r.checked = c.entries.length) ∧
      (∀ f, Compile.forest plan v = .error f →
        (∀ e, f = .capture e → e.code ≠ .str "USER_INVALID_TYPE") →
          ∃ e p rest, f = .capture e ∧ r.errors = p :: rest ∧ p.Tells e) ∧
      ∀ roots, Declaration.ofForest v = .ok roots →
        List.Forall₂ Visit.Reports (Forest.refused v) r.errors ∧
          r.checked = (Forest.reached v).length := by
  obtain ⟨r, hr⟩ := exists_ofForest hnames
  refine ⟨r, hr, ?_, ?_, ?_⟩
  · intro c hc
    exact errors_of_compiled hplan hnames hr hc
  · intro f hf hcode
    exact first_error_of_failed hplan hnames hr hf hcode
  · intro roots hroots
    exact errors_of_ok hroots hnames hr

/-- A group with a leaf that has no name, beside a declaration without keys that
hides what is below it. -/
theorem agrees_with_compilation_of_faults :
    let v : Value := .list [
      .node (.str "Tasks") [(.str "keys", .str "t"), (.str "children", .list [
        .map [(.str "keys", .str "n")],
        .map [(.str "name", .str "Todo"), (.str "keys", .str "o")]])],
      .node (.str "Lost") [(.str "children", .list [.map []])]]
    ∃ r, ofForest v = .ok r ∧ r.errors.length = 2 ∧ r.checked = 4 ∧
      List.Forall₂ Visit.Reports (Forest.refused v) r.errors := by
  intro v
  obtain ⟨r, hr, -, -, herrors⟩ :=
    @agrees_with_compilation {} v ⟨rfl, rfl⟩ (by decide +kernel)
  obtain ⟨hreports, hchecked⟩ := herrors _ rfl
  have hrefused : (Forest.refused v).length = 2 := by decide +kernel
  have hreached : (Forest.reached v).length = 4 := by decide +kernel
  refine ⟨r, hr, ?_, ?_, hreports⟩
  · rw [← hreports.length_eq, hrefused]
  · rw [hchecked, hreached]
    rfl

end Report

/-! ### Valid reports -/

/-- The first visited leaf whose type is unknown. -/
def Forest.FirstUnknownType (v : Value) (u : Visit) : Prop :=
  ∃ before after, visits v = before ++ u :: after ∧
    (∀ w ∈ before, w.node.hasChildren = false → w.node.HasKnownType) ∧
      u.node.hasChildren = false ∧ ¬ u.node.HasKnownType

/-- A visited declaration that passes is compiled unless its type is unknown. -/
theorem Visit.entry_iff_of_passes {u : Visit} (hnames : u.node.HasTextNames)
    (hpass : u.node.passes = true) (defaultType : EntryType) :
    ((∃ e, u.entry defaultType = .ok e) ↔
      (u.node.hasChildren = false → u.node.HasKnownType)) ∧
    ∀ f, u.entry defaultType = .error f ↔
      u.node.hasChildren = false ∧ ¬ u.node.HasKnownType ∧ f = .capture u.typeError := by
  have hsound := (Declaration.passes_iff_isSound hnames).mp hpass
  have hdecides := Visit.entry_decides defaultType u hnames
  constructor
  · rw [hdecides.ok_iff]
    exact ⟨fun h => h.type, fun h => ⟨hsound, h⟩⟩
  · intro f
    rw [hdecides.error_iff]
    constructor
    · rintro ⟨e, rfl, hoffence⟩
      cases hoffence with
      | type _ hchildren h => exact ⟨hchildren, h, rfl⟩
      | violation h =>
          have herror := ((Declaration.validate_decides u hnames).error_iff _).mpr ⟨e, rfl, h⟩
          rw [(u.node.passes_iff u.ancestors).mp hpass] at herror
          cases herror
    · rintro ⟨hchildren, h, rfl⟩
      exact ⟨_, rfl, .type hsound hchildren h⟩

namespace Report

theorem passes_of_no_errors (hnames : ∀ u ∈ Forest.visits v, u.node.HasTextNames)
    {r : Report} (hr : ofForest v = .ok r) (herrors : r.errors = []) :
    (∃ roots, Declaration.ofForest v = .ok roots) ∧
      ∀ u ∈ Forest.visits v, u.node.passes = true := by
  cases hroots : Declaration.ofForest v with
  | error e =>
      rw [ofForest_of_error hroots] at hr
      obtain rfl := Except.ok.inj hr
      cases herrors
  | ok roots =>
      obtain ⟨hreports, -⟩ := errors_of_ok hroots hnames hr
      rw [herrors, List.forall₂_nil_right_iff, Forest.refused_eq_nil_iff] at hreports
      exact ⟨⟨roots, rfl⟩, hreports⟩

/-- A forest without reported errors is compiled exactly if the types of all its
leaves are known, and otherwise fails at the first leaf whose type is not. -/
theorem compiles_iff_of_no_errors (hplan : plan.IsUnsorted)
    (hnames : ∀ u ∈ Forest.visits v, u.node.HasTextNames) {r : Report}
    (hr : ofForest v = .ok r) (herrors : r.errors = []) :
    ((∃ c, Compile.forest plan v = .ok c) ↔
      ∀ u ∈ Forest.visits v, u.node.hasChildren = false → u.node.HasKnownType) ∧
    ∀ f, Compile.forest plan v = .error f ↔
      ∃ u, Forest.FirstUnknownType v u ∧ f = .capture u.typeError := by
  obtain ⟨⟨roots, hroots⟩, hpass⟩ := passes_of_no_errors hnames hr herrors
  have hentry := fun u hu =>
    Visit.entry_iff_of_passes (hnames u hu) (hpass u hu) plan.defaultType
  constructor
  · rw [Compile.exists_forest_ok_iff hplan hroots]
    exact forall₂_congr fun u hu => (hentry u hu).1
  · intro f
    rw [Compile.forest_eq_error_iff hplan hroots]
    constructor
    · rintro ⟨before, u, after, hsplit, hbefore, hu⟩
      have hmem := Forest.mem_visits_of_split hsplit
      obtain ⟨hchildren, htype, rfl⟩ := ((hentry u hmem).2 f).mp hu
      refine ⟨u, ⟨before, after, hsplit, ?_, hchildren, htype⟩, rfl⟩
      intro w hw
      exact (hentry w (Forest.mem_visits_of_mem_before hsplit hw)).1.mp (hbefore w hw)
    · rintro ⟨u, ⟨before, after, hsplit, hbefore, hchildren, htype⟩, rfl⟩
      have hmem := Forest.mem_visits_of_split hsplit
      refine ⟨before, u, after, hsplit, ?_, ((hentry u hmem).2 _).mpr ⟨hchildren, htype, rfl⟩⟩
      intro w hw
      exact (hentry w (Forest.mem_visits_of_mem_before hsplit hw)).1.mpr (hbefore w hw)

/-- A single leaf whose type is no entry type. -/
theorem compiles_iff_of_no_errors_of_headline :
    let v : Value := .list [.map [(.str "name", .str "A"), (.str "keys", .str "a"),
      (.str "type", .str "headline")]]
    ∃ r, ofForest v = .ok r ∧ r.errors = [] ∧
      ∀ f, Compile.forest {} v = .error f ↔
        ∃ u, Forest.FirstUnknownType v u ∧ f = .capture u.typeError :=
  ⟨_, rfl, rfl, (@compiles_iff_of_no_errors {} _ ⟨rfl, rfl⟩ (by decide +kernel) _ rfl rfl).2⟩

/-- A valid report does not mean that the forest compiles. -/
theorem valid_of_headline_not_compiled :
    let v : Value := .list [.map [(.str "name", .str "A"), (.str "keys", .str "a"),
      (.str "type", .str "headline")]]
    (∀ u ∈ Forest.visits v, u.node.HasTextNames) ∧
      (∃ r, ofForest v = .ok r ∧ r.errors = []) ∧
        ∃ e, Compile.forest {} v = .error (.capture e) ∧ e.code = .str "USER_INVALID_TYPE" :=
  ⟨by decide +kernel, ⟨_, rfl, rfl⟩, ⟨_, rfl, rfl⟩⟩

end Report

end CaptureForest
