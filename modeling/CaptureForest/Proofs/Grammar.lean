import CaptureForest.Entry.Hook
import CaptureForest.Proofs.Compilation

/-!
# The grammar of forests

The forests that compile are those of an inductive grammar, which is stated
here without the walk.  Any other value is refused with what is said about its
first offender: the value itself, or the first declaration of the walk that does
not meet a demand.

Checking comes before resolving, so what is resolved of a declaration that
passes cannot fail any more, except for its type.
-/

namespace CaptureForest

/-- A declaration that satisfies the grammar, with all that lies below it. -/
inductive Declaration.WellFormed : Declaration → Prop
  | parent {d : Declaration} {nodes : List Declaration} (hlabel : d.IsLabelled)
      (hchildren : d.hasChildren = true) (honly : d.HasOnlyStructural)
      (hnodes : DescribesChildren (d.get "children") nodes)
      (hbelow : ∀ child ∈ nodes, child.WellFormed) : d.WellFormed
  | leaf {d : Declaration} (hlabel : d.IsLabelled) (hchildren : d.hasChildren = false)
      (htexts : d.HasSoundTexts) (htype : d.HasKnownType) : d.WellFormed

namespace Forest

/-- A sequence of what describes declarations that satisfy the grammar. -/
def WellFormed (v : Value) : Prop :=
  ∃ items roots, v.items? = some items ∧ DescribesAll items roots ∧
    ∀ d ∈ roots, d.WellFormed

/-- What is said about a value that is refused: it is no forest, or a visited
declaration is the first offender. -/
inductive Blamed (v : Value) : CaptureError → Prop
  | shape {e : CaptureError} (h : ForestFault v e) : Blamed v e
  | node {before after : List Visit} {u : Visit} {e : CaptureError}
      (hsplit : visits v = before ++ u :: after)
      (hbefore : ∀ w ∈ before, ∀ e', ¬ Offence w e') (h : Offence u e) : Blamed v e

end Forest

/-- The registrations of a declaration with every phase read from the name of its
slot. -/
def Declaration.readHooks (d : Declaration) (key : String) :
    Except Fault (List HookRegistration) :=
  (Keyword.hooks.filter d.sets).mapM fun slot =>
    (HookPhase.ofValue (.str slot)).map fun p =>
      { key := .str key, callback := d.get slot, phase := .phase p, entryName := d.name }

namespace Declaration

/-! ### The grammar along the walk -/

theorem WellFormed.isCompilable {d : Declaration} (h : d.WellFormed)
    (ancestors : List Declaration) : Visit.IsCompilable ⟨ancestors, d⟩ := by
  cases h with
  | parent hlabel hchildren honly hnodes _ =>
      exact ⟨⟨hlabel, fun _ => ⟨honly, _, hnodes⟩, by simp [hchildren]⟩, by simp [hchildren]⟩
  | leaf hlabel hchildren htexts htype =>
      exact ⟨⟨hlabel, by simp [hchildren], fun _ => htexts⟩, fun _ => htype⟩

theorem WellFormed.of_mem_children {d child : Declaration} (h : d.WellFormed)
    (hchild : child ∈ d.children) : child.WellFormed := by
  cases h with
  | @parent d nodes _ hchildren _ hnodes hbelow =>
      have hlist := (childList_eq_ok_iff hchildren nodes).mpr hnodes
      rw [children_eq_of_childList hchildren hlist] at hchild
      exact hbelow child hchild
  | leaf _ hchildren _ _ =>
      rw [children_of_not_hasChildren hchildren] at hchild
      cases hchild

theorem WellFormed.of_isCompilable {d : Declaration} {ancestors : List Declaration}
    (h : Visit.IsCompilable ⟨ancestors, d⟩) (hbelow : ∀ child ∈ d.children, child.WellFormed) :
    d.WellFormed := by
  obtain ⟨⟨hlabel, hparent, hleaf⟩, htype⟩ := h
  cases hchildren : d.hasChildren with
  | true =>
      obtain ⟨honly, nodes, hnodes⟩ := hparent hchildren
      have hlist := (childList_eq_ok_iff hchildren nodes).mpr hnodes
      rw [children_eq_of_childList hchildren hlist] at hbelow
      exact .parent hlabel hchildren honly hnodes hbelow
  | false => exact .leaf hlabel hchildren (hleaf hchildren) (htype hchildren)

theorem wellFormed_iff_visits (d : Declaration) (ancestors : List Declaration) :
    d.WellFormed ↔ ∀ u ∈ d.visits ancestors, u.IsCompilable := by
  induction d using Declaration.induction generalizing ancestors with
  | step d ih =>
      rw [visits_eq, List.forall_mem_cons]
      constructor
      · intro h
        refine ⟨h.isCompilable ancestors, ?_⟩
        intro u hu
        obtain ⟨child, hchild, hu⟩ := List.mem_flatMap.mp hu
        exact (ih child hchild _).mp (h.of_mem_children hchild) u hu
      · rintro ⟨hd, hbelow⟩
        apply WellFormed.of_isCompilable hd
        intro child hchild
        rw [ih child hchild (ancestors ++ [d])]
        intro u hu
        exact hbelow u (List.mem_flatMap.mpr ⟨child, hchild, hu⟩)

/-! ### After the check -/

/-- Every slot names its phase, so reading the phases never fails. -/
theorem readHooks_eq (d : Declaration) (key : String) :
    d.readHooks key = .ok (d.hooks key) := by
  have hslot : ∀ p : HookPhase, HookPhase.ofValue (.str p.slot) = .ok p := by
    intro p
    simp [HookPhase.ofValue, chooseWord, Value.text?, HookPhase.ofName?_slot]
  unfold readHooks hooks
  rw [mapM_eq_ok_iff, Keyword.hooks, List.filter_map, List.forall₂_map_left_iff,
    List.forall₂_map_right_iff]
  refine List.forall₂_same.mpr fun p _ => ?_
  rw [hslot p]
  rfl

end Declaration

namespace Forest

theorem wellFormed_iff_visits {v : Value} {roots : List Declaration}
    (hroots : Declaration.ofForest v = .ok roots) :
    WellFormed v ↔ ∀ u ∈ visits v, u.IsCompilable := by
  rw [visits_of_ofForest hroots]
  constructor
  · rintro ⟨items, others, hitems, hall, hwell⟩ u hu
    have hothers := (Declaration.ofForest_eq_ok_iff v others).mpr ⟨items, hitems, hall⟩
    rw [hroots] at hothers
    obtain rfl := Except.ok.inj hothers
    obtain ⟨d, hd, hu⟩ := List.mem_flatMap.mp hu
    exact (d.wellFormed_iff_visits []).mp (hwell d hd) u hu
  · intro hall
    obtain ⟨items, hitems, hdescribes⟩ := (Declaration.ofForest_eq_ok_iff v roots).mp hroots
    refine ⟨items, roots, hitems, hdescribes, ?_⟩
    intro d hd
    rw [d.wellFormed_iff_visits []]
    intro u hu
    exact hall u (List.mem_flatMap.mpr ⟨d, hd, hu⟩)

end Forest

namespace Compile

variable {plan : Plan} {v : Value}

theorem exists_ok_iff_wellFormed (hplan : plan.IsUnsorted)
    (hnames : ∀ u ∈ Forest.visits v, u.node.HasTextNames) :
    (∃ c, forest plan v = .ok c) ↔ Forest.WellFormed v := by
  cases hroots : Declaration.ofForest v with
  | error e =>
      constructor
      · rintro ⟨c, hc⟩
        simp [forest, hroots] at hc
      · rintro ⟨items, roots, hitems, hall, -⟩
        have hok := (Declaration.ofForest_eq_ok_iff v roots).mpr ⟨items, hitems, hall⟩
        rw [hroots] at hok
        cases hok
  | ok roots =>
      rw [exists_forest_ok_iff hplan hroots, Forest.wellFormed_iff_visits hroots]
      exact forall₂_congr fun u hu =>
        (Visit.entry_decides plan.defaultType u (hnames u hu)).ok_iff

theorem eq_error_iff_blamed (hplan : plan.IsUnsorted)
    (hnames : ∀ u ∈ Forest.visits v, u.node.HasTextNames) (f : Fault) :
    forest plan v = .error f ↔ ∃ e, f = .capture e ∧ Forest.Blamed v e := by
  have hdecides := fun u hu => Visit.entry_decides plan.defaultType u (hnames u hu)
  cases hroots : Declaration.ofForest v with
  | error e =>
      have hforest : forest plan v = .error (.capture e) := by
        simp [forest, hroots]
      rw [hforest]
      constructor
      · intro hf
        exact ⟨e, (Except.error.inj hf).symm,
          .shape ((Declaration.ofForest_eq_error_iff v e).mp hroots)⟩
      · rintro ⟨e', rfl, hblamed⟩
        cases hblamed with
        | shape h =>
            rw [← Declaration.ofForest_eq_error_iff, hroots] at h
            rw [Except.error.inj h]
        | node hsplit _ _ =>
            simp [Forest.visits, hroots] at hsplit
  | ok roots =>
      rw [forest_eq_error_iff hplan hroots]
      constructor
      · rintro ⟨before, u, after, hsplit, hbefore, hu⟩
        have hmem := Forest.mem_visits_of_split hsplit
        obtain ⟨e, rfl, he⟩ := ((hdecides u hmem).error_iff f).mp hu
        refine ⟨e, rfl, .node hsplit ?_ he⟩
        intro w hw e' he'
        obtain ⟨entry, hentry⟩ := hbefore w hw
        have hw' := hdecides w (Forest.mem_visits_of_mem_before hsplit hw)
        rw [(hw'.error_iff _).mpr ⟨e', rfl, he'⟩] at hentry
        cases hentry
      · rintro ⟨e, rfl, hblamed⟩
        cases hblamed with
        | shape h =>
            rw [← Declaration.ofForest_eq_error_iff, hroots] at h
            cases h
        | @node before after u _ hsplit hbefore h =>
            have hmem := Forest.mem_visits_of_split hsplit
            have hu := ((hdecides u hmem).error_iff _).mpr ⟨e, rfl, h⟩
            refine ⟨before, u, after, hsplit, ?_, hu⟩
            intro w hw
            have hw' := hdecides w (Forest.mem_visits_of_mem_before hsplit hw)
            rcases hw'.met_or_fault with hmet | ⟨e', he'⟩
            · exact hw'.ok_iff.mpr hmet
            · exact absurd he' (hbefore w hw e')

/-- The forests that compile are those of the grammar; any other value is refused
with what is said about its first offender; and what is read of a declaration
after it passed its check can be read. -/
theorem forest_accepts_grammar (hplan : plan.IsUnsorted)
    (hnames : ∀ u ∈ Forest.visits v, u.node.HasTextNames) :
    ((∃ c, forest plan v = .ok c) ↔ Forest.WellFormed v) ∧
    (∀ f, forest plan v = .error f ↔ ∃ e, f = .capture e ∧ Forest.Blamed v e) ∧
    ∀ (d : Declaration) (ancestors : List Declaration), d.validate ancestors = .ok () →
      (d.hasChildren = true → ∃ nodes, d.childList = .ok nodes) ∧
      (d.hasChildren = false → ∃ t, d.template = .ok t) ∧
      ∀ key, d.readHooks key = .ok (d.hooks key) := by
  refine ⟨exists_ok_iff_wellFormed hplan hnames, eq_error_iff_blamed hplan hnames, ?_⟩
  intro d ancestors hvalidate
  refine ⟨Declaration.exists_childList_of_validate hvalidate, ?_, d.readHooks_eq⟩
  intro hchildren
  exact Declaration.exists_template (Declaration.hasSoundTexts_of_validate hvalidate hchildren)

/-- A group with one child that is not put in a list. -/
theorem forest_accepts_grammar_of_single_child :
    let v : Value := .list [.node (.str "Tasks") [(.str "keys", .str "t"),
      (.str "children", .map [(.str "name", .str "Todo"), (.str "keys", .str "o"),
        (.str "type", .str "item"), (.str "template", .list [.str "* %?", .str "%U"])])]]
    Forest.WellFormed v :=
  (@forest_accepts_grammar {} _ ⟨rfl, rfl⟩ (by decide +kernel)).1.mp ⟨_, rfl⟩

end Compile

end CaptureForest
