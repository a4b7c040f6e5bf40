import CaptureForest.Proofs.Compilation

/-!
# The layout of the entries

The entries of a compilation are laid out along the walk.  Every declaration
yields exactly one entry, whose full key is made of the keys from the root down
to it, and right after the entry of a declaration comes the block of all that
lies below it.
-/

namespace CaptureForest

namespace Declaration

/-- The fragments are the keys of the declarations, none of them empty. -/
def KeysOf (nodes : List Declaration) (fragments : List String) : Prop :=
  List.Forall₂ (fun d k => d.keys.text? = some k ∧ k ≠ "") nodes fragments

end Declaration

namespace Visit

/-- The entry that belongs to a visited declaration.  Only the full key depends
on the ancestors. -/
structure Yields (defaultType : EntryType) (u : Visit) (e : Entry) : Prop where
  key : ∃ fragments, Declaration.KeysOf u.lineage fragments ∧
    e.key = String.join fragments
  name : e.name = u.node.name
  isGroup : e.isGroup = u.node.hasChildren
  children : u.node.hasChildren = true ↔ u.node.children ≠ []
  group : u.node.hasChildren = true → e = .group e.key u.node.name
  leaf : u.node.hasChildren = false → ∃ l : Leaf, e = .leaf l ∧
    (∀ ancestors, u.node.entryType defaultType ancestors = .ok l.type) ∧
    l.target = u.node.target ∧ u.node.template = .ok l.template ∧
    l.options = u.node.options ∧ l.passthrough = u.node.passthrough

/-- The entry `e'` of a visit `w` below `u`, whose entry is `e`: its full key
strictly extends that of `e`, for a child by the keys of the child alone. -/
structure YieldsBelow (defaultType : EntryType) (u : Visit) (e : Entry) (w : Visit)
    (e' : Entry) : Prop where
  yields : w.Yields defaultType e'
  extends_key : ∃ s, s ≠ "" ∧ e'.key = e.key ++ s
  child : w.ancestors = u.lineage →
    ∃ k, w.node.keys.text? = some k ∧ e'.key = e.key ++ k

end Visit

/-! ### Full keys -/

namespace Declaration

theorem keysOf_map {nodes : List Declaration} (h : ∀ d ∈ nodes, d.HasKeys) :
    KeysOf nodes (nodes.map fun d => d.keys?.getD "") := by
  unfold KeysOf
  rw [List.forall₂_map_right_iff, List.forall₂_same]
  intro d hd
  obtain ⟨k, hk⟩ := (hasKeys_iff d).mp (h d hd)
  rw [hk, Option.getD_some]
  simpa [keys?, Option.filter_eq_some_iff] using hk

end Declaration

namespace Compile

theorem fullKey_extends {u w : Visit} (hbelow : u.lineage <+: w.ancestors)
    (hkeys : w.node.HasKeys) :
    ∃ s, s ≠ "" ∧
      fullKey w.ancestors w.node = fullKey u.ancestors u.node ++ s := by
  obtain ⟨between, hbetween⟩ := hbelow
  obtain ⟨k, hk⟩ := (Declaration.hasKeys_iff w.node).mp hkeys
  have hne : k ≠ "" := by
    simpa using (Option.filter_eq_some_iff.mp hk).2
  refine ⟨String.join (between.map fun d => d.keys?.getD "") ++ k, ?_, ?_⟩
  · rw [ne_eq, String.append_eq_empty_iff, not_and]
    exact fun _ => hne
  · unfold fullKey
    rw [← hbetween, Visit.lineage, List.append_assoc, List.map_append, String.join_append,
      List.map_append, String.join_append]
    simp [hk]

theorem fullKey_child {u w : Visit} (hchild : w.ancestors = u.lineage) {k : String}
    (hk : w.node.keys? = some k) :
    fullKey w.ancestors w.node = fullKey u.ancestors u.node ++ k := by
  unfold fullKey
  rw [hchild, Visit.lineage, List.map_append, String.join_append]
  simp [hk]

end Compile

/-! ### Single entries -/

namespace Declaration

theorem children_ne_nil_of_validate {d : Declaration} {ancestors : List Declaration}
    (h : d.validate ancestors = .ok ()) (hchildren : d.hasChildren = true) :
    d.children ≠ [] := by
  obtain ⟨nodes, hlist⟩ := exists_childList_of_validate h hchildren
  rw [children_eq_of_childList hchildren hlist]
  exact ((childList_eq_ok_iff hchildren nodes).mp hlist).ne_nil

end Declaration

namespace Visit

/-- The entry of a compiled declaration, whose leaf is put together from its own
attributes. -/
theorem entry_cases {defaultType : EntryType} {u : Visit} {e : Entry}
    (h : u.entry defaultType = .ok e) :
    (u.node.hasChildren = true ∧
      e = .group (Compile.fullKey u.ancestors u.node) u.node.name) ∨
    (u.node.hasChildren = false ∧ ∃ type template,
      u.node.entryType defaultType u.ancestors = .ok type ∧
        u.node.template = .ok template ∧
          e = .leaf ⟨Compile.fullKey u.ancestors u.node, u.node.name, type, u.node.target,
            template, u.node.options, u.node.passthrough⟩) := by
  have hvalidate := validate_of_entry h
  unfold entry Declaration.leaf at h
  cases hchildren : u.node.hasChildren with
  | true =>
      simp only [hvalidate, hchildren, if_true, Except.ok.injEq] at h
      exact .inl ⟨rfl, h.symm⟩
  | false =>
      cases htype : u.node.entryType defaultType u.ancestors with
      | error f => simp [hvalidate, hchildren, htype] at h
      | ok type =>
          cases htemplate : u.node.template with
          | error f => simp [hvalidate, hchildren, htype, htemplate] at h
          | ok template =>
              simp only [hvalidate, hchildren, htype, htemplate, Bool.false_eq_true,
                if_false, Except.ok.injEq] at h
              exact .inr ⟨rfl, type, template, rfl, rfl, h.symm⟩

theorem key_of_entry {defaultType : EntryType} {u : Visit} {e : Entry}
    (h : u.entry defaultType = .ok e) : e.key = Compile.fullKey u.ancestors u.node := by
  rcases entry_cases h with ⟨-, rfl⟩ | ⟨-, type, template, -, -, rfl⟩ <;> rfl

theorem yields_of_entry {defaultType : EntryType} {u : Visit} {e : Entry}
    (h : u.entry defaultType = .ok e) (hkeys : ∀ d ∈ u.lineage, d.HasKeys) :
    u.Yields defaultType e := by
  have hfragments : ∃ fragments, Declaration.KeysOf u.lineage fragments ∧
      e.key = String.join fragments :=
    ⟨_, Declaration.keysOf_map hkeys, key_of_entry h⟩
  rcases entry_cases h with ⟨hchildren, rfl⟩ | ⟨hchildren, type, template, htype, htemplate, rfl⟩
  · have hne := Declaration.children_ne_nil_of_validate (validate_of_entry h) hchildren
    exact ⟨hfragments, rfl, hchildren.symm, by simp [hne, hchildren], fun _ => rfl,
      by simp [hchildren]⟩
  · have hnil := Declaration.children_of_not_hasChildren hchildren
    refine ⟨hfragments, rfl, hchildren.symm, by simp [hnil, hchildren],
      by simp [hchildren], fun _ => ⟨_, rfl, ?_, rfl, htemplate, rfl, rfl⟩⟩
    exact Declaration.entryType_eq_of_ok htype

end Visit

/-! ### The whole layout -/

theorem exists_of_forall₂_append {α β : Type} {R : α → β → Prop} {xs ys : List α}
    {zs : List β} (h : List.Forall₂ R (xs ++ ys) zs) :
    ∃ front back, zs = front ++ back ∧ List.Forall₂ R xs front ∧ List.Forall₂ R ys back :=
  ⟨zs.take xs.length, zs.drop xs.length, (List.take_append_drop xs.length zs).symm,
    (List.forall₂_take_append _ _ _ h.flip).flip, (List.forall₂_drop_append _ _ _ h.flip).flip⟩

namespace Compile

theorem hasKeys_of_compiled {defaultType : EntryType} {v : Value}
    (hall : ∀ w ∈ Forest.visits v, ∃ e, Visit.entry defaultType w = .ok e) {u : Visit}
    (hu : u ∈ Forest.visits v) : ∀ d ∈ u.lineage, d.HasKeys := by
  refine Forest.forall_lineage ?_ hu
  intro w hw
  obtain ⟨e, he⟩ := hall w hw
  exact (Declaration.isLabelled_of_validate (Visit.validate_of_entry he)).keys

theorem hasKeys_of_mem_lineage {defaultType : EntryType} {v : Value} {entries : List Entry}
    (hentries : List.Forall₂ (fun u e => Visit.entry defaultType u = .ok e)
      (Forest.visits v) entries) {u : Visit} (hu : u ∈ Forest.visits v) :
    ∀ d ∈ u.lineage, d.HasKeys := by
  have hall := (exists_mapM_eq_ok_iff _ _).mp ⟨entries, (mapM_eq_ok_iff _ _ _).mpr hentries⟩
  exact hasKeys_of_compiled hall hu

/-- The entries of a compilation are those that its declarations yield, one each
in the order of the walk, and each is followed at once by the entries of all
that lies below its declaration. -/
theorem forest_layout {plan : Plan} (hplan : plan.IsUnsorted) {v : Value}
    {c : Compilation} (h : forest plan v = .ok c) :
    List.Forall₂ (Visit.Yields plan.defaultType) (Forest.visits v) c.entries ∧
      ∀ before u after, Forest.visits v = before ++ u :: after →
        ∃ front e block back, c.entries = front ++ e :: (block ++ back) ∧
          front.length = before.length ∧ u.Yields plan.defaultType e ∧
          (block = [] ↔ e.isGroup = false) ∧
          List.Forall₂ (u.YieldsBelow plan.defaultType e) u.below block := by
  have hentries := entries_of_ok hplan h
  have hlineage := fun u hu => hasKeys_of_mem_lineage hentries (u := u) hu
  have hyields : List.Forall₂ (fun u e => (∀ d ∈ u.lineage, d.HasKeys) ∧
      Visit.entry plan.defaultType u = .ok e) (Forest.visits v) c.entries :=
    (List.forall₂_and_left _ _).mpr ⟨hlineage, hentries⟩
  refine ⟨hyields.imp fun u e he => Visit.yields_of_entry he.2 he.1, ?_⟩
  -- the entries split as the walk does: before `u`, `u`, below `u`, and the rest
  intro before u after hsplit
  obtain ⟨rest, rfl⟩ := (IsWalk.forest v).followed before u after hsplit
  rw [hsplit] at hyields
  obtain ⟨front, others, hc, hfront, hothers⟩ := exists_of_forall₂_append hyields
  obtain ⟨e, others, ⟨hkeys, he⟩, htail, rfl⟩ := List.forall₂_cons_left_iff.mp hothers
  obtain ⟨block, back, rfl, hblock, -⟩ := exists_of_forall₂_append htail
  have hu := Visit.yields_of_entry he hkeys
  refine ⟨front, e, block, back, hc, hfront.length_eq.symm, hu, ?_, ?_⟩
  · have hempty : block = [] ↔ u.below = [] := by
      rw [← List.length_eq_zero_iff, ← hblock.length_eq, List.length_eq_zero_iff]
    rw [hempty, Visit.below_eq_nil_iff, hu.isGroup, ← Bool.not_eq_true, hu.children, not_not]
  · have hbelow := (List.forall₂_and_left _ _).mpr
      ⟨fun w hw => Visit.lineage_prefix_of_mem_below (u := u) hw, hblock⟩
    refine hbelow.imp ?_
    rintro w e' ⟨habove, hwkeys, hw⟩
    have hown := hwkeys w.node (List.mem_append_right _ List.mem_cons_self)
    refine ⟨Visit.yields_of_entry hw hwkeys, ?_, ?_⟩
    · rw [Visit.key_of_entry hw, Visit.key_of_entry he]
      exact fullKey_extends habove hown
    · intro hchild
      obtain ⟨k, hk⟩ := (Declaration.hasKeys_iff w.node).mp hown
      rw [Visit.key_of_entry hw, Visit.key_of_entry he, fullKey_child hchild hk]
      exact ⟨k, (Option.filter_eq_some_iff.mp hk).1, rfl⟩

/-- A group with two templates below it, and a template beside it. -/
theorem forest_layout_of_nested :
    let v : Value := .list [
      .node (.str "Tasks") [(.str "keys", .str "t"), (.str "children", .list [
        .node (.str "Todo") [(.str "keys", .str "o"), (.str "file", .str "todo.org")],
        .map [(.str "name", .str "Note"), (.str "keys", .str "n")]])],
      .node (.str "Journal") [(.str "keys", .str "j"), (.str "type", .str "item")]]
    ∃ c, forest {} v = .ok c ∧ c.entries.map Entry.key = ["t", "to", "tn", "j"] ∧
      List.Forall₂ (Visit.Yields .entry) (Forest.visits v) c.entries :=
  ⟨_, rfl, by decide +kernel, (@forest_layout {} ⟨rfl, rfl⟩ _ _ rfl).1⟩

end Compile

end CaptureForest
