import CaptureForest.Declaration.Check
import CaptureForest.Proofs.SetAttributes
import CaptureForest.Proofs.Sorting
import CaptureForest.Proofs.Walk

/-!
# Declarations that differ in their children

The attribute `children` is read for the children only.  Two declarations that
agree in all else are checked and resolved alike if their children are well
shaped alike.  A declaration is mirrored by another one if this holds of them and
of what their children are read as, down to the leaves; the second may hold its
children in the order in which a plan takes those of the first.  Mirrored
declarations compile to the same, the first under the plan and the second without
sorting.
-/

namespace CaptureForest

/-- Two pairs with the same key, and the same value unless the key is `children`. -/
structure Pairs.SameBut (R : Value → Value → Prop) (p q : Value × Value) : Prop where
  key : p.1 = q.1
  value : p.1.isWord "children" = false → p.2 = q.2
  children : p.1.isWord "children" = true → R p.2 q.2

/-- Two declarations that agree in all but the values of `children`, which are
related. -/
structure Declaration.SameBut (R : Value → Value → Prop) (d d' : Declaration) : Prop where
  name : d.name = d'.name
  attributes : List.Forall₂ (Pairs.SameBut R) d.attributes d'.attributes

variable {R : Value → Value → Prop}

namespace Pairs

variable {ps qs : Pairs}

theorem SameBut.refl (hR : ∀ v, R v v) (p : Value × Value) : SameBut R p p :=
  ⟨rfl, fun _ => rfl, fun _ => hR p.2⟩

theorem sameBut_of_children {k v w : Value} (hk : k.isWord "children" = true) (h : R v w) :
    SameBut R (k, v) (k, w) where
  key := rfl
  value := fun hword => by
    rw [hk] at hword
    cases hword
  children := fun _ => h

theorem keys_of_sameBut (h : List.Forall₂ (SameBut R) ps qs) : keys ps = keys qs := by
  induction h with
  | nil => rfl
  | cons hpair _ ih =>
      rw [keys, List.map_cons, keys, List.map_cons, hpair.key]
      exact congrArg _ ih

theorem lookup?_of_sameBut (h : List.Forall₂ (SameBut R) ps qs) {word : String}
    (hword : word ≠ "children") : lookup? word ps = lookup? word qs := by
  induction h with
  | nil => rfl
  | @cons p q rest others hpair _ ih =>
      obtain ⟨k, v⟩ := p
      obtain ⟨l, w⟩ := q
      obtain ⟨rfl, hvalue, -⟩ := hpair
      rw [lookup?, lookup?, ih]
      split
      · rename_i hk
        exact congrArg some (hvalue (Value.not_isWord_of_isWord hk hword))
      · rfl

theorem get_children_of_sameBut (h : List.Forall₂ (SameBut R) ps qs) (hnone : R .none .none) :
    R (get "children" ps) (get "children" qs) := by
  induction h with
  | nil => exact hnone
  | @cons p q rest others hpair _ ih =>
      obtain ⟨k, v⟩ := p
      obtain ⟨l, w⟩ := q
      obtain ⟨rfl, -, hchildren⟩ := hpair
      rw [get, lookup?, get, lookup?]
      split
      · rename_i hk
        exact hchildren hk
      · exact ih

/-- A part of the pairs to which `children` never belongs. -/
theorem filter_of_sameBut (h : List.Forall₂ (SameBut R) ps qs) {p : Value × Value → Bool}
    (hp : ∀ pair, pair.1.isWord "children" = true → p pair = false) :
    ps.filter p = qs.filter p := by
  induction h with
  | nil => rfl
  | @cons a b rest others hpair _ ih =>
      cases hkey : a.1.isWord "children" with
      | false =>
          have hab : a = b := Prod.ext hpair.key (hpair.value hkey)
          rw [hab, List.filter_cons, List.filter_cons, ih]
      | true =>
          have hb : b.1.isWord "children" = true := hpair.key ▸ hkey
          rw [List.filter_cons_of_neg (by simp [hp a hkey]), List.filter_cons_of_neg (by simp [hp b hb]),
            ih]

end Pairs

namespace Declaration

theorem SameBut.refl (hR : ∀ v, R v v) (d : Declaration) : SameBut R d d :=
  ⟨rfl, List.forall₂_same.mpr fun p _ => Pairs.SameBut.refl hR p⟩

namespace SameBut

variable {d d' : Declaration} (h : SameBut R d d')

include h

theorem get {word : String} (hword : word ≠ "children") : d.get word = d'.get word := by
  rw [Declaration.get, Declaration.get, Pairs.get, Pairs.get,
    Pairs.lookup?_of_sameBut h.attributes hword]

theorem sets {word : String} (hword : word ≠ "children") : d.sets word = d'.sets word := by
  rw [Declaration.sets, Declaration.sets, h.get hword]

theorem agreeOn {words : List String} (hwords : "children" ∉ words) : AgreeOn words d d' := by
  intro word hword
  have hne : word ≠ "children" := by
    rintro rfl
    exact hwords hword
  rw [setting?, setting?, h.sets hne, h.get hne]

theorem keys? : d.keys? = d'.keys? := (h.agreeOn (by decide)).keys?

theorem extraAttributes : d.extraAttributes = d'.extraAttributes := by
  rw [Declaration.extraAttributes, Declaration.extraAttributes, Pairs.keys_of_sameBut h.attributes]

theorem isBare : d.isBare = d'.isBare := by
  have hkeys : ∀ d : Declaration, d.isBare =
      (!(Pairs.keys d.attributes).isEmpty && (Pairs.keys d.attributes).all (·.isWord "keys")) := by
    intro d
    simp [Declaration.isBare, Pairs.keys, Function.comp_def]
  rw [hkeys, hkeys, Pairs.keys_of_sameBut h.attributes]

/-! ### What a leaf resolves to -/

theorem target : d.target = d'.target := (h.agreeOn (by decide)).target

theorem template : d.template = d'.template := (h.agreeOn (by decide)).template

theorem filter_setAttributes {p : Value × Value → Bool}
    (hp : ∀ pair, pair.1.isWord "children" = true → p pair = false) :
    d.setAttributes.filter p = d'.setAttributes.filter p := by
  unfold setAttributes
  rw [List.filter_filter, List.filter_filter]
  apply Pairs.filter_of_sameBut h.attributes
  intro pair hpair
  rw [hp pair hpair, Bool.false_and]

theorem options : d.options = d'.options := by
  apply h.filter_setAttributes
  intro pair hpair
  rw [Value.isAmong, beq_iff_eq.mp hpair]
  decide

theorem passthrough : d.passthrough = d'.passthrough := by
  apply h.filter_setAttributes
  intro pair hpair
  rw [Value.isAmong, beq_iff_eq.mp hpair]
  decide

theorem hooks (key : String) : d.hooks key = d'.hooks key :=
  (h.agreeOn (by decide)).hooks h.name key

/-! ### Where a declaration stands -/

variable {ancestors ancestors' : List Declaration}
  (hancestors : List.Forall₂ (SameBut R) ancestors ancestors')

include hancestors

theorem lineage : List.Forall₂ (SameBut R) (ancestors ++ [d]) (ancestors' ++ [d']) :=
  List.rel_append hancestors (.cons h .nil)

theorem path : d.path ancestors = d'.path ancestors' := by
  have hnames : (ancestors ++ [d]).map (fun a => a.name.plain) =
      (ancestors' ++ [d']).map fun a => a.name.plain := by
    rw [← List.forall₂_eq_eq_eq, List.forall₂_map_left_iff, List.forall₂_map_right_iff]
    exact (h.lineage hancestors).imp fun a b hab => by rw [hab.name]
  rw [Declaration.path, Declaration.path, hnames]

theorem fullKey : Compile.fullKey ancestors d = Compile.fullKey ancestors' d' := by
  have hkeys : (ancestors ++ [d]).map (fun a => a.keys?.getD "") =
      (ancestors' ++ [d']).map fun a => a.keys?.getD "" := by
    rw [← List.forall₂_eq_eq_eq, List.forall₂_map_left_iff, List.forall₂_map_right_iff]
    exact (h.lineage hancestors).imp fun a b hab => by rw [hab.keys?]
  rw [Compile.fullKey, Compile.fullKey, hkeys]

theorem entryType (hchildren : d.hasChildren = d'.hasChildren) (default : EntryType) :
    d.entryType default ancestors = d'.entryType default ancestors' := by
  unfold Declaration.entryType unknownType
  rw [hchildren, h.isBare, h.sets (by decide), h.get (by decide), h.name, h.path hancestors]

theorem leaf (hchildren : d.hasChildren = d'.hasChildren) (default : EntryType) (key : String) :
    d.leaf default ancestors key = d'.leaf default ancestors' key := by
  unfold Declaration.leaf
  rw [h.entryType hancestors hchildren, h.template, h.name, h.target, h.options, h.passthrough]

theorem compileLeaf (hchildren : d.hasChildren = d'.hasChildren) {plan plan' : Plan}
    (hplan : plan.defaultType = plan'.defaultType) :
    Compile.leaf plan ancestors d = Compile.leaf plan' ancestors' d' := by
  simp only [Compile.leaf, h.fullKey hancestors, hplan, h.leaf hancestors hchildren, h.hooks]

theorem conflicts : d.conflicts (d.path ancestors) = d'.conflicts (d'.path ancestors') := by
  unfold Declaration.conflicts competingLocations competingTemplates
  rw [h.path hancestors, (h.agreeOn (by decide)).filter_sets,
    (h.agreeOn (by decide)).filter_sets]

/-- The rules look at the children only to see whether there are any, and whether
they are well shaped. -/
theorem validate (hchildren : d.hasChildren = d'.hasChildren)
    (hlist : d.hasChildren = true →
      d.childList.map (fun _ => ()) = d'.childList.map fun _ => ()) :
    d.validate ancestors = d'.validate ancestors' := by
  have hleaf : d.checkLeaf = d'.checkLeaf := (h.agreeOn (by decide)).checkLeaf h.name
  have hparent : d.hasChildren = true → d.checkParent = d'.checkParent := by
    intro hd
    unfold checkParent
    rw [h.extraAttributes, h.name]
    have hshape := hlist hd
    cases hnodes : d.childList <;> cases hnodes' : d'.childList <;>
      simp_all [Except.map]
  unfold Declaration.validate
  rw [h.keys?, h.name, h.path hancestors, hleaf]
  cases hd : d.hasChildren with
  | true => rw [← hchildren, hparent hd, hd]
  | false => rw [← hchildren, hd, if_neg Bool.false_ne_true, if_neg Bool.false_ne_true]

end SameBut

/-! ### Mirrored declarations -/

abbrev SameButChildren : Declaration → Declaration → Prop := SameBut fun _ _ => True

theorem SameButChildren.refl (d : Declaration) : SameButChildren d d := SameBut.refl (fun _ => trivial) d

/-- Up to what their children are read as, two declarations are the same; the
children of the second are in the order in which those of the first are put. -/
inductive Mirrors (inOrder : List Declaration → Except Fault (List Declaration)) :
    Declaration → Declaration → Prop
  | leaf {d d' : Declaration} (h : SameButChildren d d')
      (hd : d.hasChildren = false) (hd' : d'.hasChildren = false) : Mirrors inOrder d d'
  | group {d d' : Declaration} {nodes sorted nodes' : List Declaration}
      (h : SameButChildren d d')
      (hd : d.hasChildren = true) (hd' : d'.hasChildren = true)
      (hlist : d.childList = .ok nodes) (hsort : inOrder nodes = .ok sorted)
      (hlist' : d'.childList = .ok nodes')
      (hnodes : List.Forall₂ (Mirrors inOrder) sorted nodes') : Mirrors inOrder d d'
  | illShaped {d d' : Declaration} {e : CaptureError} (h : SameButChildren d d')
      (hd : d.hasChildren = true) (hd' : d'.hasChildren = true)
      (hlist : d.childList = .error e) (hlist' : d'.childList = .error e) :
      Mirrors inOrder d d'

namespace Mirrors

variable {inOrder : List Declaration → Except Fault (List Declaration)} {d d' : Declaration}

theorem sameBut (h : Mirrors inOrder d d') : SameButChildren d d' := by
  cases h <;> assumption

theorem hasChildren (h : Mirrors inOrder d d') : d.hasChildren = d'.hasChildren := by
  cases h with
  | leaf _ hd hd' => rw [hd, hd']
  | group _ hd hd' => rw [hd, hd']
  | illShaped _ hd hd' => rw [hd, hd']

theorem validate (h : Mirrors inOrder d d') {ancestors ancestors' : List Declaration}
    (hancestors : List.Forall₂ SameButChildren ancestors ancestors') :
    d.validate ancestors = d'.validate ancestors' := by
  apply h.sameBut.validate hancestors h.hasChildren
  intro hchildren
  cases h with
  | leaf _ hd _ =>
      rw [hd] at hchildren
      cases hchildren
  | group _ _ _ hlist _ hlist' _ => rw [hlist, hlist']; rfl
  | illShaped _ _ _ hlist hlist' => rw [hlist, hlist']

/-- The children of a group that passes, in their order, mirror each other. -/
theorem children (h : Mirrors inOrder d d') (hchildren : d.hasChildren = true)
    {ancestors : List Declaration} (hvalidate : d.validate ancestors = .ok ()) :
    ∃ sorted, inOrder d.children = .ok sorted ∧
      List.Forall₂ (Mirrors inOrder) sorted d'.children := by
  cases h with
  | leaf _ hd _ =>
      rw [hd] at hchildren
      cases hchildren
  | group _ hd hd' hlist hsort hlist' hnodes =>
      rw [children_eq_of_childList hd hlist, children_eq_of_childList hd' hlist']
      exact ⟨_, hsort, hnodes⟩
  | illShaped _ hd _ hlist _ =>
      obtain ⟨nodes, hnodes⟩ := exists_childList_of_validate hvalidate hd
      rw [hlist] at hnodes
      cases hnodes

/-- In declared order a declaration mirrors itself. -/
theorem refl (d : Declaration) : Mirrors .ok d d := by
  induction d using Declaration.induction with
  | step d ih =>
      have hsame := SameButChildren.refl d
      cases hd : d.hasChildren with
      | false => exact .leaf hsame hd hd
      | true =>
          cases hlist : d.childList with
          | error e => exact .illShaped hsame hd hd hlist hlist
          | ok nodes =>
              refine .group hsame hd hd hlist rfl hlist (List.forall₂_same.mpr ?_)
              intro child hchild
              rw [← children_eq_of_childList hd hlist] at hchild
              exact ih child hchild

end Mirrors

end Declaration

/-! ### Mirrored declarations compile alike -/

/-- The plan without its predicates, which leaves declarations in their declared order. -/
def Plan.unsorted (plan : Plan) : Plan := { plan with sortChildren := none, sortForest := none }

namespace Compile

/-- A run over mirrored declarations in which all compile alike. -/
theorem gather_map_congr {nodes nodes' : List Declaration}
    {result result' : Declaration → Except Fault Compiled}
    (h : List.Forall₂ (fun d d' => result d = result' d') nodes nodes') :
    gather (nodes.map fun d => (d, result d)) = gather (nodes'.map fun d => (d, result' d)) := by
  induction h with
  | nil => rfl
  | @cons d d' rest others hfirst _ ih =>
      rw [List.map_cons, List.map_cons, hfirst]
      cases result' d' with
      | error e => rfl
      | ok c => rw [gather, gather, ih]

/-- The first compiles in sorted order to what the second compiles to. -/
theorem tree_of_mirrors {plan : Plan} {d d' : Declaration}
    (h : d.Mirrors (inOrder plan.sorter plan.sortChildren) d') {ancestors ancestors' : List Declaration}
    (hancestors : List.Forall₂ Declaration.SameButChildren ancestors ancestors') :
    tree plan ancestors d.outline = tree plan.unsorted ancestors' d'.outline := by
  -- the relation nests lists of itself, so the induction is on what it relates
  induction d using Declaration.induction generalizing d' ancestors ancestors' with
  | step d ih =>
      have hvalidate := h.validate hancestors
      cases hresult : d.validate ancestors with
      | error f =>
          rw [Declaration.outline_eq, Declaration.outline_eq, tree, tree, ← hvalidate, hresult]
      | ok _ =>
          rw [hresult] at hvalidate
          have hchildren := h.hasChildren
          cases hd : d.hasChildren with
          | false =>
              rw [hd] at hchildren
              have htype : plan.defaultType = plan.unsorted.defaultType := rfl
              have hleaf := h.sameBut.compileLeaf hancestors h.hasChildren htype
              rw [Declaration.outline_eq, Declaration.outline_eq, tree, tree, hresult, ← hvalidate]
              simp only [hd, ← hchildren, Bool.false_eq_true, if_false]
              exact hleaf
          | true =>
              obtain ⟨sorted, hsort, hnodes⟩ := h.children hd hresult
              have hmem : ∀ child ∈ sorted, child ∈ d.children :=
                fun child hchild => (inOrder_perm hsort).subset hchild
              have hgather :
                  gather (sorted.map fun child =>
                    (child, tree plan (ancestors ++ [d]) child.outline)) =
                  gather (d'.children.map fun child =>
                    (child, tree plan.unsorted (ancestors' ++ [d']) child.outline)) := by
                apply gather_map_congr
                refine ((List.forall₂_and_left _ _).mpr ⟨hmem, hnodes⟩).imp ?_
                rintro child child' ⟨hchild, hmirrors⟩
                exact ih child hchild hmirrors (h.sameBut.lineage hancestors)
              have hgroup : group ancestors d = group ancestors' d' := by
                funext cs
                rw [group, group, h.sameBut.fullKey hancestors, h.sameBut.name]
              have hsort' : inOrder plan.unsorted.sorter plan.unsorted.sortChildren d'.children =
                .ok d'.children := rfl
              rw [tree_group hresult hd, tree_group hvalidate.symm (hchildren ▸ hd), hgroup,
                sortedResult_of_inOrder hsort, sortedResult_of_inOrder hsort', hgather]

/-- Roots that mirror each other compile alike if the first are taken in order. -/
theorem roots_of_mirrors {plan : Plan} {nodes sorted nodes' : List Declaration}
    (hsort : inOrder plan.sorter plan.sortForest nodes = .ok sorted)
    (hnodes : List.Forall₂ (Declaration.Mirrors (inOrder plan.sorter plan.sortChildren)) sorted nodes') :
    roots plan nodes = roots plan.unsorted nodes' := by
  have hgather := gather_map_congr <| hnodes.imp fun d d' hd => tree_of_mirrors hd .nil
  have hsort' : inOrder plan.unsorted.sorter plan.unsorted.sortForest nodes' = .ok nodes' := rfl
  rw [roots_eq, roots_eq, sortedResult_of_inOrder hsort, sortedResult_of_inOrder hsort', hgather]

end Compile

/-! ### Mirrored declarations are checked alike -/

namespace Outline

theorem checkAll_congr {ancestors ancestors' nodes nodes' : List Declaration}
    (h : List.Forall₂ (fun d d' => d.outline.check ancestors = d'.outline.check ancestors')
      nodes nodes') :
    checkAll ancestors (nodes.map Declaration.outline) =
      checkAll ancestors' (nodes'.map Declaration.outline) := by
  induction h with
  | nil => rfl
  | cons hfirst _ ih =>
      funext r
      rw [List.map_cons, List.map_cons, checkAll, checkAll, hfirst, ih]

theorem check_of_mirrors {d d' : Declaration} (h : d.Mirrors .ok d')
    {ancestors ancestors' : List Declaration}
    (hancestors : List.Forall₂ Declaration.SameButChildren ancestors ancestors') :
    d.outline.check ancestors = d'.outline.check ancestors' := by
  induction d using Declaration.induction generalizing d' ancestors ancestors' with
  | step d ih =>
      have hvalidate := h.validate hancestors
      have hpath := h.sameBut.path hancestors
      have hconflicts := h.sameBut.conflicts hancestors
      funext r
      rw [Declaration.outline_eq, Declaration.outline_eq, check, check, ← hvalidate, hpath]
      cases hresult : d.validate ancestors with
      | error f => cases f <;> rfl
      | ok _ =>
          have hchildren := h.hasChildren
          cases hd : d.hasChildren with
          | false =>
              rw [hpath] at hconflicts
              simp only [← hchildren, hd, if_neg Bool.false_ne_true, hconflicts]
          | true =>
              obtain ⟨sorted, hsort, hnodes⟩ := h.children hd hresult
              obtain rfl := Except.ok.inj hsort
              have hall : checkAll (ancestors ++ [d]) (d.children.map Declaration.outline) =
                  checkAll (ancestors' ++ [d']) (d'.children.map Declaration.outline) := by
                apply checkAll_congr
                refine ((List.forall₂_and_left _ _).mpr ⟨fun _ hchild => hchild, hnodes⟩).imp ?_
                rintro child child' ⟨hchild, hmirrors⟩
                exact ih child hchild hmirrors (h.sameBut.lineage hancestors)
              simp only [← hchildren, hd, if_pos, hall]

end Outline

end CaptureForest
