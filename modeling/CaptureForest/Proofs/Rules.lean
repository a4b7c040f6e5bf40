import CaptureForest.Declaration.Validity
import CaptureForest.Proofs.Shape
import CaptureForest.Proofs.Walk

/-!
# The rules on one declaration

What the grammar demands of a single declaration, and what is said about the
first demand that is not met: keys, then the name, and then the demands on
parents or those on leaves.  Checking a declaration decides exactly these
demands, and whether it passes does not depend on where it stands.
-/

namespace CaptureForest

/-- A check decides a demand: it succeeds exactly if the demand is met, and
fails exactly with what is said about a demand that is not met. -/
structure Decides {α : Type} (check : Except Fault α) (demand : Prop)
    (fault : CaptureError → Prop) : Prop where
  ok_iff : (∃ a, check = .ok a) ↔ demand
  error_iff : ∀ f, check = .error f ↔ ∃ e, f = .capture e ∧ fault e

theorem Decides.of_cases {α : Type} {check : Except Fault α} {demand : Prop}
    {fault : CaptureError → Prop} (hok : demand → ∃ a, check = .ok a)
    (herror : ∀ e, fault e → check = .error (.capture e))
    (hall : demand ∨ ∃ e, fault e) : Decides check demand fault := by
  constructor
  · refine ⟨?_, hok⟩
    rintro ⟨a, ha⟩
    rcases hall with hmet | ⟨e, he⟩
    · exact hmet
    · rw [herror e he] at ha
      cases ha
  · intro f
    constructor
    · intro hf
      rcases hall with hmet | ⟨e, he⟩
      · obtain ⟨a, ha⟩ := hok hmet
        rw [ha] at hf
        cases hf
      · rw [herror e he] at hf
        exact ⟨e, (Except.error.inj hf).symm, he⟩
    · rintro ⟨e, rfl, he⟩
      exact herror e he

theorem Decides.met_or_fault {α : Type} {check : Except Fault α} {demand : Prop}
    {fault : CaptureError → Prop} (h : Decides check demand fault) :
    demand ∨ ∃ e, fault e := by
  cases hcheck : check with
  | ok a => exact .inl (h.ok_iff.mp ⟨a, hcheck⟩)
  | error f =>
      obtain ⟨e, -, he⟩ := (h.error_iff f).mp hcheck
      exact .inr ⟨e, he⟩

namespace Value

/-- A text, or a sequence of texts only. -/
inductive HoldsTexts : Value → Prop
  | text {v : Value} (h : v.isText = true) : HoldsTexts v
  | texts {v : Value} {items : List Value} (hitems : v.items? = some items)
      (h : ∀ item ∈ items, item.isText = true) : HoldsTexts v

inductive HoldsPath : Value → Prop
  | text {v : Value} (h : v.isText = true) : HoldsPath v
  | path (location : String) : HoldsPath (.path location)

/-- The value is not set, or has the property. -/
def UnsetOr (P : Value → Prop) (v : Value) : Prop := v.isSet = false ∨ P v

theorem isTextOrTexts_iff (v : Value) : v.isTextOrTexts = true ↔ v.HoldsTexts := by
  unfold isTextOrTexts
  rw [Bool.or_eq_true]
  constructor
  · rintro (h | h)
    · exact .text h
    · split at h
      · rename_i items hitems
        exact .texts hitems (List.all_eq_true.mp h)
      · cases h
  · intro h
    cases h with
    | text h => exact .inl h
    | texts hitems h =>
        rw [hitems]
        exact .inr (List.all_eq_true.mpr h)

theorem isPathLike_iff (v : Value) : Declaration.isPathLike v = true ↔ v.HoldsPath := by
  constructor
  · intro h
    cases v with
    | path location => exact .path location
    | _ => exact .text h
  · intro h
    cases h with
    | text h => cases v <;> simp_all [Declaration.isPathLike]
    | path location => rfl

theorem isAbsent_iff (v : Value) : v.isAbsent = true ↔ v = .none := by
  cases v <;> simp [isAbsent]

theorem isText_iff (v : Value) : v.isText = true ↔ ∃ word, v.text? = some word := by
  rw [isText, Option.isSome_iff_exists]

theorem isAmong_iff (words : List String) (v : Value) :
    v.isAmong words = true ↔ ∃ word ∈ words, v.text? = some word := by
  unfold isAmong
  cases v.text? with
  | none => simp
  | some word => simp

theorem not_isWord_of_isWord {v : Value} {word other : String} (h : v.isWord word = true)
    (hne : word ≠ other) : v.isWord other = false := by
  have htext : v.text? = some word := beq_iff_eq.mp h
  simp [isWord, htext, hne]

theorem mapM_text?_eq_some_iff (items : List Value) (words : List String) :
    items.mapM text? = some words ↔
      List.Forall₂ (fun item word => item.text? = some word) items words := by
  induction items generalizing words with
  | nil =>
      rw [List.forall₂_nil_left_iff]
      simp only [List.mapM_nil, pure, Option.some.injEq]
      exact eq_comm
  | cons item rest ih =>
      rw [List.mapM_cons, List.forall₂_cons_left_iff]
      simp only [bind, pure, Option.bind_eq_some_iff, Option.some.injEq, ih]
      constructor
      · rintro ⟨word, hword, others, hothers, rfl⟩
        exact ⟨word, others, hword, hothers, rfl⟩
      · rintro ⟨word, others, hword, hothers, rfl⟩
        exact ⟨word, hword, others, hothers, rfl⟩

theorem exists_texts {items : List Value} (h : ∀ item ∈ items, item.isText = true) :
    ∃ words, items.mapM text? = some words := by
  simp only [mapM_text?_eq_some_iff]
  induction items with
  | nil => exact ⟨[], .nil⟩
  | cons item rest ih =>
      obtain ⟨word, hword⟩ := (isText_iff item).mp (h item List.mem_cons_self)
      obtain ⟨words, hwords⟩ :=
        ih fun other hother => h other (List.mem_cons_of_mem item hother)
      exact ⟨word :: words, .cons hword hwords⟩

end Value

namespace Declaration

/-- The keys are a text that is not empty. -/
def HasKeys (d : Declaration) : Prop := ∃ k, d.keys.text? = some k ∧ k ≠ ""

structure IsLabelled (d : Declaration) : Prop where
  keys : d.HasKeys
  name : d.name ≠ .none

/-- All names of attributes are texts. -/
def HasTextNames (d : Declaration) : Prop :=
  ∀ name ∈ Pairs.keys d.attributes, name.isText = true

instance (d : Declaration) : Decidable d.HasTextNames :=
  inferInstanceAs (Decidable (∀ name ∈ Pairs.keys d.attributes, name.isText = true))

/-- Nothing is declared beside what a parent may carry. -/
def HasOnlyStructural (d : Declaration) : Prop :=
  ∀ name ∈ Pairs.keys d.attributes, ∃ word ∈ Keyword.structural, name.text? = some word

/-- The attributes of a leaf that must hold texts or a path do, if they are
set. -/
structure HasSoundTexts (d : Declaration) : Prop where
  olp : (d.get "olp").UnsetOr Value.HoldsTexts
  template : (d.get "template").UnsetOr Value.HoldsTexts
  templateFile : (d.get "template-file").UnsetOr Value.HoldsPath

/-- A declaration that meets all demands on it, whatever its children are. -/
structure IsSound (d : Declaration) : Prop where
  label : d.IsLabelled
  parent : d.hasChildren = true →
    d.HasOnlyStructural ∧ ∃ nodes, DescribesChildren (d.get "children") nodes
  leaf : d.hasChildren = false → d.HasSoundTexts

/-- The first demand on a parent that is not met. -/
inductive ParentFault (d : Declaration) : CaptureError → Prop
  | extra {words : List String} (hextra : ¬ d.HasOnlyStructural)
      (hwords : List.Forall₂ (fun name word => name.text? = some word)
        d.extraAttributes words) :
      ParentFault d (.parentShape d.name d.extraAttributes words)
  | children {e : CaptureError} (hextra : d.HasOnlyStructural)
      (h : ChildrenFault d e) : ParentFault d e

/-- The first demand on the texts of a leaf that is not met. -/
inductive LeafFault (d : Declaration) : CaptureError → Prop
  | olp (h : ¬ (d.get "olp").UnsetOr Value.HoldsTexts) :
      LeafFault d (.textOrTexts d.name (.str "olp") (d.get "olp"))
  | template (holp : (d.get "olp").UnsetOr Value.HoldsTexts)
      (h : ¬ (d.get "template").UnsetOr Value.HoldsTexts) :
      LeafFault d (.textOrTexts d.name (.str "template") (d.get "template"))
  | templateFile (holp : (d.get "olp").UnsetOr Value.HoldsTexts)
      (htemplate : (d.get "template").UnsetOr Value.HoldsTexts)
      (h : ¬ (d.get "template-file").UnsetOr Value.HoldsPath) :
      LeafFault d (.textOrTexts d.name (.str "template-file") (d.get "template-file"))

end Declaration

/-- What is said about the first demand that a visited declaration does not
meet. -/
inductive Violation (u : Visit) : CaptureError → Prop
  | keys (h : ¬ u.node.HasKeys) :
      Violation u (.missingKeys u.node.name (u.node.path u.ancestors))
  | name (hkeys : u.node.HasKeys) (h : u.node.name = .none) :
      Violation u (.missingName u.node.name (u.node.path u.ancestors))
  | parent {e : CaptureError} (hlabel : u.node.IsLabelled)
      (hchildren : u.node.hasChildren = true) (h : u.node.ParentFault e) :
      Violation u e
  | leaf {e : CaptureError} (hlabel : u.node.IsLabelled)
      (hchildren : u.node.hasChildren = false) (h : u.node.LeafFault e) :
      Violation u e

namespace Declaration

/-! ### Keys and names -/

theorem hasKeys_iff (d : Declaration) : d.HasKeys ↔ ∃ k, d.keys? = some k := by
  unfold HasKeys keys?
  simp only [Option.filter_eq_some_iff, decide_eq_true_eq, ne_eq]

theorem keys?_of_not_hasKeys {d : Declaration} (h : ¬ d.HasKeys) : d.keys? = none := by
  cases hkeys : d.keys? with
  | none => rfl
  | some k => exact absurd ((hasKeys_iff d).mpr ⟨k, hkeys⟩) h

theorem extraAttributes_eq_nil_iff (d : Declaration) :
    d.extraAttributes = [] ↔ d.HasOnlyStructural := by
  unfold extraAttributes HasOnlyStructural
  rw [List.filter_eq_nil_iff]
  simp only [Bool.not_eq_true', Bool.not_eq_false, Value.isAmong_iff]

theorem listNames_eq_ok_iff (names : List Value) (words : List String) :
    listNames names = .ok words ↔
      List.Forall₂ (fun name word => name.text? = some word) names words := by
  rw [← Value.mapM_text?_eq_some_iff]
  unfold listNames
  cases names.mapM Value.text? <;> simp

/-! ### Parents -/

theorem checkParent_decides {d : Declaration} (hchildren : d.hasChildren = true)
    (hnames : d.HasTextNames) :
    Decides d.checkParent
      (d.HasOnlyStructural ∧ ∃ nodes, DescribesChildren (d.get "children") nodes)
      d.ParentFault := by
  apply Decides.of_cases
  · rintro ⟨honly, nodes, hnodes⟩
    rw [← extraAttributes_eq_nil_iff] at honly
    rw [← childList_eq_ok_iff hchildren] at hnodes
    exact ⟨(), by simp [checkParent, honly, hnodes]⟩
  · intro e he
    cases he with
    | extra hextra hwords =>
        rw [← extraAttributes_eq_nil_iff] at hextra
        rw [← listNames_eq_ok_iff] at hwords
        unfold checkParent
        split
        · contradiction
        · simp [hwords]
    | children honly he =>
        rw [← extraAttributes_eq_nil_iff] at honly
        rw [← childList_eq_error_iff] at he
        simp [checkParent, honly, he]
  · by_cases honly : d.HasOnlyStructural
    · cases hlist : d.childList with
      | ok nodes =>
          exact .inl ⟨honly, nodes, (childList_eq_ok_iff hchildren nodes).mp hlist⟩
      | error e =>
          exact .inr ⟨e, .children honly ((childList_eq_error_iff d e).mp hlist)⟩
    · have htexts : ∀ name ∈ d.extraAttributes, name.isText = true := by
        intro name hname
        exact hnames name (List.mem_of_mem_filter hname)
      obtain ⟨words, hwords⟩ := Value.exists_texts htexts
      exact .inr ⟨_, .extra honly ((Value.mapM_text?_eq_some_iff _ words).mp hwords)⟩

/-! ### Leaves -/

theorem checkTexts_of_sound {d : Declaration} {word : String}
    (h : (d.get word).UnsetOr Value.HoldsTexts) : d.checkTexts word = .ok () := by
  unfold checkTexts
  rcases h with h | h
  · simp [h]
  · simp [(Value.isTextOrTexts_iff _).mpr h]

theorem checkTexts_of_not_sound {d : Declaration} {word : String}
    (h : ¬ (d.get word).UnsetOr Value.HoldsTexts) :
    d.checkTexts word = .error (.capture (.textOrTexts d.name (.str word) (d.get word))) := by
  unfold Value.UnsetOr at h
  rw [not_or, ← Value.isTextOrTexts_iff] at h
  simp only [Bool.not_eq_false, Bool.not_eq_true] at h
  simp [checkTexts, h.1, h.2]

theorem checkLeaf_decides (d : Declaration) :
    Decides d.checkLeaf d.HasSoundTexts d.LeafFault := by
  apply Decides.of_cases
  · rintro ⟨holp, htemplate, hfile⟩
    refine ⟨(), ?_⟩
    rcases hfile with hfile | hfile
    · simp [checkLeaf, checkTexts_of_sound holp, checkTexts_of_sound htemplate, hfile]
    · simp [checkLeaf, checkTexts_of_sound holp, checkTexts_of_sound htemplate,
        (Value.isPathLike_iff _).mpr hfile]
  · intro e he
    cases he with
    | olp h => simp [checkLeaf, checkTexts_of_not_sound h]
    | template holp h =>
        simp [checkLeaf, checkTexts_of_sound holp, checkTexts_of_not_sound h]
    | templateFile holp htemplate h =>
        unfold Value.UnsetOr at h
        rw [not_or, ← Value.isPathLike_iff] at h
        simp only [Bool.not_eq_false, Bool.not_eq_true] at h
        simp [checkLeaf, checkTexts_of_sound holp, checkTexts_of_sound htemplate, h.1, h.2]
  · by_cases holp : (d.get "olp").UnsetOr Value.HoldsTexts
    · by_cases htemplate : (d.get "template").UnsetOr Value.HoldsTexts
      · by_cases hfile : (d.get "template-file").UnsetOr Value.HoldsPath
        · exact .inl ⟨holp, htemplate, hfile⟩
        · exact .inr ⟨_, .templateFile holp htemplate hfile⟩
      · exact .inr ⟨_, .template holp htemplate⟩
    · exact .inr ⟨_, .olp holp⟩

/-! ### All demands in turn -/

theorem validate_of_isLabelled {d : Declaration} (h : d.IsLabelled)
    (ancestors : List Declaration) :
    d.validate ancestors = if d.hasChildren then d.checkParent else d.checkLeaf := by
  obtain ⟨k, hk⟩ := (hasKeys_iff d).mp h.keys
  have hname : ¬ d.name.isAbsent = true := by
    rw [Value.isAbsent_iff]
    exact h.name
  simp [validate, hk, hname]

theorem isLabelled_of_validate {d : Declaration} {ancestors : List Declaration}
    (h : d.validate ancestors = .ok ()) : d.IsLabelled := by
  unfold validate at h
  cases hkeys : d.keys? with
  | none => simp [hkeys] at h
  | some k =>
      refine ⟨(hasKeys_iff d).mpr ⟨k, hkeys⟩, ?_⟩
      intro hname
      rw [← Value.isAbsent_iff] at hname
      simp [hkeys, hname] at h

theorem exists_childList_of_validate {d : Declaration} {ancestors : List Declaration}
    (h : d.validate ancestors = .ok ()) (hchildren : d.hasChildren = true) :
    ∃ nodes, d.childList = .ok nodes := by
  rw [validate_of_isLabelled (isLabelled_of_validate h), if_pos hchildren] at h
  unfold checkParent at h
  split at h
  · split at h
    · rename_i nodes hlist
      exact ⟨nodes, hlist⟩
    · cases h
  · split at h <;> cases h

theorem hasSoundTexts_of_validate {d : Declaration} {ancestors : List Declaration}
    (h : d.validate ancestors = .ok ()) (hchildren : d.hasChildren = false) :
    d.HasSoundTexts := by
  rw [validate_of_isLabelled (isLabelled_of_validate h), hchildren] at h
  exact (checkLeaf_decides d).ok_iff.mp ⟨(), h⟩

/-- Checking a declaration decides the demands on it. -/
theorem validate_decides (u : Visit) (hnames : u.node.HasTextNames) :
    Decides (u.node.validate u.ancestors) u.node.IsSound (Violation u) := by
  apply Decides.of_cases
  · intro h
    rw [validate_of_isLabelled h.label]
    split
    · rename_i hchildren
      exact (checkParent_decides hchildren hnames).ok_iff.mpr (h.parent hchildren)
    · rename_i hchildren
      rw [Bool.not_eq_true] at hchildren
      exact (checkLeaf_decides u.node).ok_iff.mpr (h.leaf hchildren)
  · intro e he
    cases he with
    | keys h => simp [validate, keys?_of_not_hasKeys h]
    | name hkeys h =>
        obtain ⟨k, hk⟩ := (hasKeys_iff u.node).mp hkeys
        simp [validate, hk, (Value.isAbsent_iff _).mpr h]
    | parent hlabel hchildren h =>
        rw [validate_of_isLabelled hlabel, if_pos hchildren]
        exact ((checkParent_decides hchildren hnames).error_iff _).mpr ⟨e, rfl, h⟩
    | leaf hlabel hchildren h =>
        rw [validate_of_isLabelled hlabel, hchildren]
        exact ((checkLeaf_decides u.node).error_iff _).mpr ⟨e, rfl, h⟩
  · by_cases hkeys : u.node.HasKeys
    · by_cases hname : u.node.name = .none
      · exact .inr ⟨_, .name hkeys hname⟩
      · have hlabel : u.node.IsLabelled := ⟨hkeys, hname⟩
        cases hchildren : u.node.hasChildren with
        | true =>
            rcases (checkParent_decides hchildren hnames).met_or_fault with h | ⟨e, he⟩
            · exact .inl ⟨hlabel, fun _ => h, by simp [hchildren]⟩
            · exact .inr ⟨e, .parent hlabel hchildren he⟩
        | false =>
            rcases (checkLeaf_decides u.node).met_or_fault with h | ⟨e, he⟩
            · exact .inl ⟨hlabel, by simp [hchildren], fun _ => h⟩
            · exact .inr ⟨e, .leaf hlabel hchildren he⟩
    · exact .inr ⟨_, .keys hkeys⟩

/-- Whether a declaration passes does not depend on where it stands. -/
theorem validate_eq_ok_iff_of_ancestors (d : Declaration)
    (ancestors others : List Declaration) :
    d.validate ancestors = .ok () ↔ d.validate others = .ok () := by
  unfold validate
  cases d.keys? with
  | none => simp
  | some k => cases d.name.isAbsent <;> simp

end Declaration

end CaptureForest
