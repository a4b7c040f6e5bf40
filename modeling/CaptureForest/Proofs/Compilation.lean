import CaptureForest.Proofs.FirstFailure
import CaptureForest.Proofs.Resolution

/-!
# Compiling along the walk

Without sort orders the compilation of a forest is a run along its walk: every
visited declaration contributes one entry, in the order of the walk, and the
first that cannot be compiled fails the run.

From this the layout of the entries follows.  The full key of an entry is made
of the keys from the root down to its declaration, and a group is followed at
once by the entries of all that lies below it.
-/

namespace CaptureForest

/-- A plan that leaves declarations in their declared order. -/
structure Plan.IsUnsorted (plan : Plan) : Prop where
  children : plan.sortChildren = none
  forest : plan.sortForest = none

namespace Compile

mutual

theorem tree_eq_mapM {plan : Plan} (hplan : plan.IsUnsorted) (ancestors : List Declaration) :
    ∀ o : Outline, (tree plan ancestors o).map (fun c => c.tree.flatten) =
      (o.visits ancestors).mapM (Visit.entry plan.defaultType)
  | .node d cs => by
    -- the run over the visits opens with that of `d`, so both fail alike if `d` is invalid
    have hbelow := gather_trees_eq_mapM hplan (ancestors ++ [d]) cs
    rw [tree, Outline.visits, List.mapM_cons, Visit.entry]
    cases hvalidate : d.validate ancestors with
    | error e => rfl
    | ok _ =>
        cases hchildren : d.hasChildren with
        | true =>
            simp only [arrange, hplan.children, if_true]
            rw [← hbelow]
            cases gather (trees plan (ancestors ++ [d]) cs) <;> rfl
        | false =>
            simp only [leaf, Bool.false_eq_true, if_false]
            cases d.leaf plan.defaultType ancestors (fullKey ancestors d) <;> rfl

theorem gather_trees_eq_mapM {plan : Plan} (hplan : plan.IsUnsorted)
    (ancestors : List Declaration) :
    ∀ os : List Outline,
      (gather (trees plan ancestors os)).map
          (fun cs => EntryTree.flattenAll (cs.map (·.tree))) =
        (Outline.visitsAll ancestors os).mapM (Visit.entry plan.defaultType)
  | [] => rfl
  | o :: rest => by
    have hfirst := tree_eq_mapM hplan ancestors o
    have hrest := gather_trees_eq_mapM hplan ancestors rest
    rw [trees, Outline.visitsAll, List.mapM_append, ← hfirst, ← hrest]
    cases htree : tree plan ancestors o with
    | error e => simp [gather, Except.map, bind, Except.bind]
    | ok c =>
        cases hgather : gather (trees plan ancestors rest) with
        | error e => simp [gather, hgather, Except.map, bind, Except.bind]
        | ok others =>
            simp [gather, hgather, Except.map, bind, Except.bind, pure, Except.pure,
              EntryTree.flattenAll]

end

/-- The entries of a forest are those of its visits. -/
theorem forest_eq_mapM {plan : Plan} (hplan : plan.IsUnsorted) {v : Value}
    {nodes : List Declaration} (hnodes : Declaration.ofForest v = .ok nodes) :
    (forest plan v).map Compilation.entries =
      (Forest.visits v).mapM (Visit.entry plan.defaultType) := by
  have htrees := gather_trees_eq_mapM hplan [] (nodes.map Declaration.outline)
  rw [Declaration.visitsAll_outline] at htrees
  rw [Forest.visits_of_ofForest hnodes, ← htrees]
  simp only [forest, hnodes, roots, arrange, hplan.forest]
  cases gather (trees plan [] (nodes.map Declaration.outline)) <;> rfl

theorem entries_of_ok {plan : Plan} (hplan : plan.IsUnsorted) {v : Value}
    {c : Compilation} (h : forest plan v = .ok c) :
    List.Forall₂ (fun u e => Visit.entry plan.defaultType u = .ok e)
      (Forest.visits v) c.entries := by
  rw [← mapM_eq_ok_iff]
  cases hnodes : Declaration.ofForest v with
  | error e => simp [forest, hnodes] at h
  | ok nodes =>
      rw [← forest_eq_mapM hplan hnodes, h]
      rfl

theorem exists_forest_ok_iff {plan : Plan} (hplan : plan.IsUnsorted) {v : Value}
    {nodes : List Declaration} (hnodes : Declaration.ofForest v = .ok nodes) :
    (∃ c, forest plan v = .ok c) ↔
      ∀ u ∈ Forest.visits v, ∃ e, Visit.entry plan.defaultType u = .ok e := by
  rw [← exists_mapM_eq_ok_iff, ← forest_eq_mapM hplan hnodes]
  cases forest plan v <;> simp [Except.map]

/-- A compilation fails as the first visit does that fails. -/
theorem forest_eq_error_iff {plan : Plan} (hplan : plan.IsUnsorted) {v : Value}
    {nodes : List Declaration} (hnodes : Declaration.ofForest v = .ok nodes) (f : Fault) :
    forest plan v = .error f ↔
      FailsFirst (Visit.entry plan.defaultType) (Forest.visits v) f := by
  rw [← mapM_eq_error_iff, ← forest_eq_mapM hplan hnodes]
  cases forest plan v <;> simp [Except.map]

end Compile

end CaptureForest
