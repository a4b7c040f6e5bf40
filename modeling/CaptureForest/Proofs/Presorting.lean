import CaptureForest.Proofs.CompileOrder
import CaptureForest.Proofs.Mirroring
import Mathlib.Data.List.Perm.Basic

/-!
# Presorted forests

Instead of sorting while it is compiled, a forest may be sorted before: first its
roots and then, from the top down, the children of every group.  If the orders
answer every question then compiling with them is compiling the presorted forest
without them, whatever the sorter makes of the answers.

An order only puts siblings in order.  The walk of the compilation is still a walk:
a group is followed at once by all that lies below it, the roots stand in the order
to which the one predicate sorts them, and the children of each group in the order
to which the other does.
-/

namespace CaptureForest

/-- Every question is answered, whether the answers are consistent or not. -/
def Plan.IsTotal (plan : Plan) : Prop := plan.AnswersOn fun _ => True

theorem Compile.exists_inOrder_of_total (sorter : Sorter) {order : Option Less}
    (horder : ∀ less, order = some less → less.AnswersOn fun _ => True)
    (nodes : List Declaration) : ∃ sorted, inOrder sorter order nodes = .ok sorted :=
  exists_inOrder horder fun _ _ => trivial

theorem Compile.arranged_of_inOrder {α : Type} {sorter : Sorter} {order : Option Less}
    {nodes sorted : List Declaration} (h : inOrder sorter order nodes = .ok sorted)
    (f : Declaration → α) :
    arranged sorter order (nodes.map fun d => (d, f d)) = sorted.map fun d => (d, f d) := by
  rw [arranged, arrange_map, h]
  rfl

/-! ### Presorting -/

/-- The declaration with a list of children in place of its own. -/
def Declaration.withChildren (d : Declaration) (children : List Declaration) : Declaration :=
  { d with attributes :=
      Pairs.insert (.str "children") (.list (children.map toValue)) d.attributes }

mutual

/-- The root of a tree in which the children of every declaration are sorted. -/
def Outline.presorted (sorter : Sorter) (order : Option Less) : Outline → Declaration
  | .node d cs =>
    if cs.isEmpty then d
    else d.withChildren ((Compile.arranged sorter order (presortedAll sorter order cs)).map (·.2))

/-- The roots of presorted trees, each with the root before it is presorted. -/
def Outline.presortedAll (sorter : Sorter) (order : Option Less) :
    List Outline → List (Declaration × Declaration)
  | [] => []
  | o :: rest => (o.declaration, presorted sorter order o) :: presortedAll sorter order rest

end

/-- The forest with its roots sorted, and below them the children of every
declaration. -/
def Forest.presorted (plan : Plan) (forest : Value) : Value :=
  match Declaration.ofForest forest with
  | .ok nodes =>
    let roots := Compile.arranged plan.sorter plan.sortForest
      (Outline.presortedAll plan.sorter plan.sortChildren (nodes.map Declaration.outline))
    .list ((roots.map (·.2)).map Declaration.toValue)
  | .error _ => forest

theorem Value.same_str (k : Value) (word : String) : k.same (.str word) = k.isWord word := by
  cases k <;> simp [same, scalarSame, isWord, number?, text?]

namespace Pairs

theorem lookup?_insert_str (word other : String) (v : Value) (pairs : Pairs) :
    lookup? word (insert (.str other) v pairs) =
      if other = word then some v else lookup? word pairs := by
  induction pairs with
  | nil => simp [insert, lookup?, Value.isWord, Value.text?]
  | cons pair rest ih =>
      obtain ⟨k, w⟩ := pair
      rw [insert, Value.same_str]
      split
      · rename_i hk
        have hword : k.isWord word = (other == word) := by
          rw [Value.isWord, beq_iff_eq.mp hk]
          rfl
        rw [lookup?, lookup?, hword]
        by_cases h : other = word <;> simp [h]
      · rename_i hk
        rw [lookup?, lookup?, ih]
        by_cases h : other = word
        · simp [h, h ▸ hk]
        · simp [h]

theorem lookup?_insert (word : String) (v : Value) (pairs : Pairs) :
    lookup? word (insert (.str word) v pairs) = some v := by
  rw [lookup?_insert_str, if_pos rfl]

/-- Where there are children they are replaced, and all else is kept. -/
theorem sameBut_insert_children {pairs : Pairs} {w : Value}
    (h : lookup? "children" pairs = some w) (v : Value) :
    List.Forall₂ (SameBut fun _ _ => True) pairs (insert (.str "children") v pairs) := by
  induction pairs with
  | nil => cases h
  | cons pair rest ih =>
      obtain ⟨k, u⟩ := pair
      have hrefl : ∀ p : Value × Value, SameBut (fun _ _ => True) p p := .refl fun _ => trivial
      rw [insert, Value.same_str]
      rw [lookup?] at h
      split
      · rename_i hk
        exact .cons (sameBut_of_children hk trivial) (List.forall₂_same.mpr fun p _ => hrefl p)
      · rename_i hk
        rw [if_neg hk] at h
        exact .cons (hrefl _) (ih h)

end Pairs

namespace Declaration

variable {d : Declaration}

theorem get_withChildren (d : Declaration) (nodes : List Declaration) :
    (d.withChildren nodes).get "children" = .list (nodes.map toValue) := by
  rw [get, Pairs.get, withChildren, Pairs.lookup?_insert, Value.ofOption]

theorem describesAll_toValue (nodes : List Declaration) :
    DescribesAll (nodes.map toValue) nodes := by
  rw [DescribesAll, List.forall₂_map_left_iff]
  exact List.forall₂_same.mpr fun _ _ => rfl

theorem ofForest_toValue (nodes : List Declaration) :
    ofForest (.list (nodes.map toValue)) = .ok nodes :=
  (ofForest_eq_ok_iff _ nodes).mpr ⟨_, rfl, describesAll_toValue nodes⟩

theorem hasChildren_withChildren (d : Declaration) {nodes : List Declaration} (hne : nodes ≠ []) :
    (d.withChildren nodes).hasChildren = true := by
  rw [hasChildren, get_withChildren]
  simpa [Value.items?] using hne

theorem childList_withChildren (d : Declaration) {nodes : List Declaration} (hne : nodes ≠ []) :
    (d.withChildren nodes).childList = .ok nodes := by
  rw [childList_eq_ok_iff (hasChildren_withChildren d hne), get_withChildren]
  exact .many rfl (by simpa using hne) (describesAll_toValue nodes)

theorem sameBut_withChildren (h : d.hasChildren = true) (nodes : List Declaration) :
    SameButChildren d (d.withChildren nodes) := by
  refine ⟨rfl, ?_⟩
  cases hlookup : Pairs.lookup? "children" d.attributes with
  | some w => exact Pairs.sameBut_insert_children hlookup _
  | none =>
      have hget : d.get "children" = .none := by rw [get, Pairs.get, hlookup, Value.ofOption]
      simp [hasChildren, hget, sets, Value.items?, Value.isSet] at h

/-- The declaration with sorted children below it. -/
def presorted (sorter : Sorter) (order : Option Less) (d : Declaration) : Declaration :=
  d.outline.presorted sorter order

theorem presortedAll_outline (sorter : Sorter) (order : Option Less) (nodes : List Declaration) :
    Outline.presortedAll sorter order (nodes.map outline) =
      nodes.map fun d => (d, d.presorted sorter order) := by
  induction nodes with
  | nil => rfl
  | cons d rest ih =>
      rw [List.map_cons, Outline.presortedAll, ih, declaration_outline, List.map_cons, presorted]

theorem presorted_of_childless {sorter : Sorter} {order : Option Less} (h : d.children = []) :
    d.presorted sorter order = d := by
  rw [presorted, outline_eq, h, Outline.presorted]
  rfl

/-- Presorting goes from the top down: the children are sorted as they were
declared, and each is presorted then. -/
theorem presorted_of_children {sorter : Sorter} {order : Option Less} {sorted : List Declaration}
    (hne : d.children ≠ []) (hsort : Compile.inOrder sorter order d.children = .ok sorted) :
    d.presorted sorter order = d.withChildren (sorted.map (presorted sorter order)) := by
  rw [presorted, outline_eq, Outline.presorted, presortedAll_outline,
    Compile.arranged_of_inOrder hsort, List.map_map, if_neg (by simpa using hne)]
  rfl

/-- A presorted declaration mirrors the declaration in sorted order. -/
theorem mirrors_presorted {sorter : Sorter} {order : Option Less}
    (horder : ∀ less, order = some less → less.AnswersOn fun _ => True) (d : Declaration) :
    d.Mirrors (Compile.inOrder sorter order) (d.presorted sorter order) := by
  induction d using Declaration.induction with
  | step d ih =>
      have hsame := SameButChildren.refl d
      cases hd : d.hasChildren with
      | false =>
          rw [presorted_of_childless (children_of_not_hasChildren hd)]
          exact .leaf hsame hd hd
      | true =>
          cases hlist : d.childList with
          | error e =>
              -- children that cannot be read are left as they are, and give the same error
              have hnone : d.children = [] := by simp [children, hlist]
              rw [presorted_of_childless hnone]
              exact .illShaped hsame hd hd hlist hlist
          | ok nodes =>
              have hnodes := children_eq_of_childList hd hlist
              have hne : d.children ≠ [] := by
                rw [hnodes]
                exact ((childList_eq_ok_iff hd nodes).mp hlist).ne_nil
              obtain ⟨sorted, hsort⟩ := Compile.exists_inOrder_of_total sorter horder d.children
              have hperm := Compile.inOrder_perm hsort
              have hsorted : sorted.map (presorted sorter order) ≠ [] := by
                rw [ne_eq, List.map_eq_nil_iff]
                rintro rfl
                exact hne hperm.symm.eq_nil
              rw [presorted_of_children hne hsort]
              refine .group (sameBut_withChildren hd _) hd (hasChildren_withChildren d hsorted)
                hlist (hnodes ▸ hsort) (childList_withChildren d hsorted) ?_
              rw [List.forall₂_map_right_iff]
              exact List.forall₂_same.mpr fun child hchild => ih child (hperm.subset hchild)

end Declaration

theorem Forest.presorted_of_ofForest {plan : Plan} {v : Value} {nodes sorted : List Declaration}
    (h : Declaration.ofForest v = .ok nodes)
    (hsort : Compile.inOrder plan.sorter plan.sortForest nodes = .ok sorted) :
    Forest.presorted plan v =
      .list ((sorted.map (Declaration.presorted plan.sorter plan.sortChildren)).map Declaration.toValue) := by
  simp only [presorted, h, Declaration.presortedAll_outline, Compile.arranged_of_inOrder hsort,
    List.map_map, Function.comp_def]

namespace Compile

variable {plan : Plan} {v : Value}

/-- Compiling in sorted order is compiling the presorted forest. -/
theorem forest_eq_presorted (hplan : plan.IsTotal) (v : Value) :
    forest plan v = forest plan.unsorted (Forest.presorted plan v) := by
  cases hnodes : Declaration.ofForest v with
  | error e => simp [forest, Forest.presorted, hnodes]
  | ok nodes =>
      obtain ⟨sorted, hsort⟩ := exists_inOrder_of_total plan.sorter hplan.forest nodes
      have hmirrors : List.Forall₂ (Declaration.Mirrors (inOrder plan.sorter plan.sortChildren)) sorted
          (sorted.map (Declaration.presorted plan.sorter plan.sortChildren)) := by
        rw [List.forall₂_map_right_iff]
        exact List.forall₂_same.mpr fun d _ => d.mirrors_presorted hplan.children
      rw [Forest.presorted_of_ofForest hnodes hsort, forest, forest, hnodes,
        Declaration.ofForest_toValue]
      exact roots_of_mirrors hsort hmirrors

/-! ### Success -/

theorem exists_gather_ok {parts : List (Declaration × Except Fault Compiled)}
    (h : ∀ part ∈ parts, ∃ c, part.2 = .ok c) : ∃ compiled, gather parts = .ok compiled := by
  induction parts with
  | nil => exact ⟨[], rfl⟩
  | cons part rest ih =>
      obtain ⟨d, result⟩ := part
      obtain ⟨c, rfl⟩ := h _ List.mem_cons_self
      obtain ⟨others, hothers⟩ := ih fun other hother => h other (List.mem_cons_of_mem _ hother)
      exact ⟨c :: others, by rw [gather, hothers]⟩

theorem exists_sortedResult_ok (sorter : Sorter) {order : Option Less}
    (horder : ∀ less, order = some less → less.AnswersOn fun _ => True)
    {nodes : List Declaration} {result : Declaration → Except Fault Compiled}
    (h : ∀ d ∈ nodes, ∃ c, result d = .ok c) :
    ∃ compiled, sortedResult sorter order result nodes = .ok compiled := by
  obtain ⟨sorted, hsort⟩ := exists_inOrder_of_total sorter horder nodes
  rw [sortedResult_of_inOrder hsort]
  apply exists_gather_ok
  intro part hpart
  obtain ⟨d, hd, rfl⟩ := List.mem_map.mp hpart
  exact h d ((inOrder_perm hsort).subset hd)

/-- A tree compiles if every declaration in it can be compiled by itself. -/
theorem exists_tree_ok (hplan : plan.IsTotal) {d : Declaration} {ancestors : List Declaration}
    (h : ∀ u ∈ d.visits ancestors, ∃ e, u.entry plan.defaultType = .ok e) :
    ∃ c, tree plan ancestors d.outline = .ok c := by
  induction d using Declaration.induction generalizing ancestors with
  | step d ih =>
      rw [Declaration.visits_eq] at h
      obtain ⟨e, he⟩ := h _ List.mem_cons_self
      rw [Visit.entry] at he
      cases hvalidate : d.validate ancestors with
      | error f => simp [hvalidate] at he
      | ok _ =>
          cases hchildren : d.hasChildren with
          | true =>
              have hbelow : ∀ child ∈ d.children,
                  ∃ c, tree plan (ancestors ++ [d]) child.outline = .ok c := by
                intro child hchild
                refine ih child hchild fun u hu => h u (List.mem_cons_of_mem _ ?_)
                exact List.mem_flatMap.mpr ⟨child, hchild, hu⟩
              obtain ⟨compiled, hcompiled⟩ := exists_sortedResult_ok plan.sorter hplan.children hbelow
              rw [tree_group hvalidate hchildren, hcompiled]
              exact ⟨_, rfl⟩
          | false =>
              simp only [hvalidate, hchildren, Bool.false_eq_true, if_false] at he
              rw [Declaration.outline_eq, tree]
              simp only [hvalidate, hchildren, leaf, Bool.false_eq_true, if_false]
              cases hleaf : d.leaf plan.defaultType ancestors (fullKey ancestors d) with
              | error f => simp [hleaf] at he
              | ok l => exact ⟨_, rfl⟩

theorem exists_forest_ok_of_total (hplan : plan.IsTotal) {c : Compilation}
    (h : forest plan.unsorted v = .ok c) : ∃ c', forest plan v = .ok c' := by
  cases hnodes : Declaration.ofForest v with
  | error e => simp [forest, hnodes] at h
  | ok nodes =>
      have hunsorted : plan.unsorted.IsUnsorted := ⟨rfl, rfl⟩
      have hentries := (exists_forest_ok_iff hunsorted hnodes).mp ⟨c, h⟩
      rw [Forest.visits_of_ofForest hnodes] at hentries
      have htrees : ∀ d ∈ nodes, ∃ c, tree plan [] d.outline = .ok c := by
        intro d hd
        refine exists_tree_ok hplan fun u hu => hentries u ?_
        exact List.mem_flatMap.mpr ⟨d, hd, hu⟩
      obtain ⟨compiled, hcompiled⟩ := exists_sortedResult_ok plan.sorter hplan.forest htrees
      rw [forest, hnodes]
      simp only [roots_eq, hcompiled]
      exact ⟨_, rfl⟩

end Compile

/-! ### The walk in sorted order -/

/-- The declarations that the walk visits at a depth, where roots have depth zero. -/
def Forest.atDepth (depth : Nat) (walk : List Visit) : List Declaration :=
  (walk.filter fun u => u.ancestors.length == depth).map Visit.node

/-- The block holds all that lies below a visited declaration, with its children in
sorted order. -/
structure Visit.IsSortedBelow (plan : Plan) (u : Visit) (block : List Visit) : Prop where
  perm : block.Perm u.below
  children : Compile.inOrder plan.sorter plan.sortChildren u.node.children =
    .ok (Forest.atDepth (u.ancestors.length + 1) block)

/-- The walk visits what a forest holds, with the roots in the order of the one
predicate; every declaration is followed at once by all that lies below it, with its
children in the order of the other. -/
structure Forest.IsSortedWalk (plan : Plan) (forest : Value) (walk : List Visit) : Prop where
  perm : walk.Perm (visits forest)
  roots : ∀ nodes, Declaration.ofForest forest = .ok nodes →
    Compile.inOrder plan.sorter plan.sortForest nodes = .ok (atDepth 0 walk)
  followed : ∀ before u after, walk = before ++ u :: after →
    ∃ block rest, after = block ++ rest ∧ u.IsSortedBelow plan block

namespace Outline

variable {plan : Plan}

theorem compileOrders_outline (plan : Plan) (ancestors nodes : List Declaration) :
    compileOrders plan ancestors (nodes.map Declaration.outline) =
      nodes.map fun d => (d, d.outline.compileOrder plan ancestors) := by
  induction nodes with
  | nil => rfl
  | cons d rest ih =>
      rw [List.map_cons, compileOrders, ih, Declaration.declaration_outline, List.map_cons]

theorem compileOrder_of_inOrder {d : Declaration} {sorted : List Declaration}
    (hsort : Compile.inOrder plan.sorter plan.sortChildren d.children = .ok sorted)
    (ancestors : List Declaration) :
    d.outline.compileOrder plan ancestors = ⟨ancestors, d⟩ ::
      sorted.flatMap fun child => child.outline.compileOrder plan (ancestors ++ [d]) := by
  rw [Declaration.outline_eq, compileOrder, compileOrders_outline,
    Compile.arranged_of_inOrder hsort, List.flatMap_map]
  cases hchildren : d.hasChildren with
  | true => rfl
  | false =>
      have hperm := Compile.inOrder_perm hsort
      rw [Declaration.children_of_not_hasChildren hchildren] at hperm
      rw [hperm.eq_nil]
      rfl

theorem compileOrder_perm_below {u : Visit} {block : List Visit}
    (h : u.node.outline.compileOrder plan u.ancestors = u :: block) : block.Perm u.below := by
  have hperm := compileOrder_perm plan u.ancestors u.node.outline
  have hvisits : u.node.outline.visits u.ancestors = u :: u.below :=
    Declaration.visits_eq_cons_below u.ancestors u.node
  rw [h, hvisits] at hperm
  exact hperm.cons_inv

/-- Of a tree only the root stands at the depth of the root. -/
theorem atDepth_compileOrder (hplan : plan.IsTotal) (u : Visit) :
    Forest.atDepth u.ancestors.length (u.node.outline.compileOrder plan u.ancestors) =
      [u.node] := by
  obtain ⟨sorted, hsort⟩ := Compile.exists_inOrder_of_total plan.sorter hplan.children u.node.children
  have horder := compileOrder_of_inOrder hsort u.ancestors
  have hperm := compileOrder_perm_below horder
  -- what lies below the root has the root among its ancestors
  have hdeeper : ∀ w ∈ u.below, (w.ancestors.length == u.ancestors.length) = false := by
    intro w hw
    have hle := (Visit.lineage_prefix_of_mem_below hw).length_le
    rw [Visit.lineage, List.length_append, List.length_singleton] at hle
    rw [beq_eq_false_iff_ne]
    omega
  rw [horder, Forest.atDepth, List.filter_cons_of_pos (by simp), List.map_cons,
    List.filter_eq_nil_iff.mpr]
  · rfl
  · intro w hw
    rw [hdeeper w (hperm.subset hw)]
    exact Bool.false_ne_true

theorem atDepth_flatMap_compileOrder (hplan : plan.IsTotal) (ancestors nodes : List Declaration) :
    Forest.atDepth ancestors.length
      (nodes.flatMap fun d => d.outline.compileOrder plan ancestors) = nodes := by
  induction nodes with
  | nil => rfl
  | cons d rest ih =>
      have hd := atDepth_compileOrder hplan ⟨ancestors, d⟩
      rw [Forest.atDepth] at hd ih ⊢
      rw [List.flatMap_cons, List.filter_append, List.map_append, hd, ih, List.singleton_append]

/-- The block after a visit holds all below it, with the children sorted. -/
theorem exists_isSortedBelow (hplan : plan.IsTotal) (u : Visit) :
    ∃ sorted, Compile.inOrder plan.sorter plan.sortChildren u.node.children = .ok sorted ∧
      u.IsSortedBelow plan
        (sorted.flatMap fun child => child.outline.compileOrder plan u.lineage) := by
  obtain ⟨sorted, hsort⟩ := Compile.exists_inOrder_of_total plan.sorter hplan.children u.node.children
  refine ⟨sorted, hsort, compileOrder_perm_below (compileOrder_of_inOrder hsort u.ancestors), ?_⟩
  have hdepth := atDepth_flatMap_compileOrder hplan u.lineage sorted
  rw [Visit.lineage, List.length_append, List.length_singleton] at hdepth
  rw [Visit.lineage, hdepth, hsort]

theorem followedBy_compileOrder (hplan : plan.IsTotal) (d : Declaration)
    (ancestors : List Declaration) :
    FollowedBy (Visit.IsSortedBelow plan) (d.outline.compileOrder plan ancestors) := by
  induction d using Declaration.induction generalizing ancestors with
  | step d ih =>
      obtain ⟨sorted, hsort, hbelow⟩ := exists_isSortedBelow hplan ⟨ancestors, d⟩
      rw [compileOrder_of_inOrder hsort]
      refine .cons hbelow (.flatMap fun child hchild => ?_)
      exact ih child ((Compile.inOrder_perm hsort).subset hchild) _

end Outline

theorem Forest.isSortedWalk_compileOrder {plan : Plan} (hplan : plan.IsTotal) (v : Value) :
    IsSortedWalk plan v (compileOrder plan v) := by
  cases hnodes : Declaration.ofForest v with
  | error e =>
      have hnil : compileOrder plan v = [] := by rw [compileOrder, hnodes]
      refine ⟨compileOrder_perm plan v, fun nodes h => ?_, hnil ▸ FollowedBy.nil⟩
      rw [hnodes] at h
      cases h
  | ok nodes =>
      obtain ⟨sorted, hsort⟩ := Compile.exists_inOrder_of_total plan.sorter hplan.forest nodes
      have horder : compileOrder plan v =
          sorted.flatMap fun d => d.outline.compileOrder plan [] := by
        rw [compileOrder, hnodes]
        simp only [Outline.compileOrders_outline, Compile.arranged_of_inOrder hsort,
          List.flatMap_map]
      refine ⟨compileOrder_perm plan v, fun others h => ?_, ?_⟩
      · obtain rfl := Except.ok.inj (hnodes.symm.trans h)
        have hdepth := Outline.atDepth_flatMap_compileOrder hplan [] sorted
        rw [List.length_nil] at hdepth
        rw [horder, hdepth, hsort]
      · rw [horder]
        exact FollowedBy.flatMap fun d _ => Outline.followedBy_compileOrder hplan d []

namespace Compile

variable {plan : Plan} {v : Value}

/-- If the predicates answer every question then a forest that compiles without them
compiles with them, to what the presorted forest compiles to without them, tree by
tree.  The entries and the hooks are those of compiling without the predicates, put in
the order of a sorted walk. -/
theorem forest_sorted_eq_presorted (hplan : plan.IsTotal) {c : Compilation}
    (h : forest plan.unsorted v = .ok c) :
    ∃ c' walk, forest plan v = .ok c' ∧
      forest plan.unsorted (Forest.presorted plan v) = .ok c' ∧
      c'.entries.Perm c.entries ∧ c'.records.Perm c.records ∧ c'.hooks.Perm c.hooks ∧
      Forest.IsSortedWalk plan v walk ∧
      List.Forall₂ (fun u e => Visit.entry plan.defaultType u = .ok e) walk c'.entries ∧
      c'.hooks = walk.flatMap Visit.registrations := by
  obtain ⟨c', hc'⟩ := exists_forest_ok_of_total hplan h
  have hpresorted := forest_eq_presorted hplan v
  have hsorted := areOf_of_forest hc'
  have hdeclared := areOf_of_forest h
  have hperm := (Forest.compileOrder_perm plan v).trans
    (Forest.compileOrder_perm plan.unsorted v).symm
  have hunique : Relator.RightUnique fun u e => Visit.entry plan.defaultType u = .ok e := by
    intro u e f he hf
    exact Except.ok.inj (he.symm.trans hf)
  have hentries : c'.entries.Perm c.entries :=
    List.rel_perm_imp hunique hsorted.entries hdeclared.entries hperm
  refine ⟨c', _, hc', hpresorted ▸ hc', hentries, hentries.map _, ?_,
    Forest.isSortedWalk_compileOrder hplan v, hsorted.entries, hsorted.hooks⟩
  rw [hsorted.hooks, hdeclared.hooks]
  exact hperm.flatMap_right _

/-- Leaves come first among the roots, and children are sorted by a predicate that says
yes to every question and so turns them around. -/
theorem forest_sorted_eq_presorted_of_inconsistent :
    let plan : Plan := {
      sortForest := some SiblingOrder.leavesFirst.less, sortChildren := some fun _ _ => .ok true }
    let v : Value := .list [
      .map [(.str "name", .str "Zeta"), (.str "keys", .str "z"), (.str "children", .list [
        .node (.str "Two") [(.str "keys", .str "2")], .node (.str "One") [(.str "keys", .str "1")]])],
      .node (.str "Alpha") [(.str "keys", .str "a")]]
    ∃ c c', forest plan.unsorted v = .ok c ∧ forest plan v = .ok c' ∧
      forest plan.unsorted (Forest.presorted plan v) = .ok c' ∧ c'.entries.Perm c.entries ∧
      c.entries.map Entry.key = ["z", "z2", "z1", "a"] ∧
      c'.entries.map Entry.key = ["a", "z", "z1", "z2"] := by
  intro plan v
  have hplan : plan.IsTotal := by
    constructor
    · rintro less ⟨⟩ a b - -
      exact ⟨_, rfl⟩
    · rintro less ⟨⟩ a b - -
      exact ⟨_, rfl⟩
  obtain ⟨c, hc, hkeys⟩ : ∃ c, forest plan.unsorted v = .ok c ∧
      c.entries.map Entry.key = ["z", "z2", "z1", "a"] := ⟨_, rfl, by decide +kernel⟩
  obtain ⟨c', walk, hc', hpresorted, hentries, -⟩ := forest_sorted_eq_presorted hplan hc
  have hkeys' : (forest plan v).map (fun c => c.entries.map Entry.key) =
      .ok ["a", "z", "z1", "z2"] := rfl
  rw [hc'] at hkeys'
  exact ⟨c, c', hc, hc', hpresorted, hentries, hkeys, Except.ok.inj hkeys'⟩

end Compile

end CaptureForest
