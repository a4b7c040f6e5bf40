import CaptureForest.Declaration.Outline

/-!
# The walk through a forest

A forest is walked depth first: a declaration comes before its children, and
the whole tree of a child comes before the next child.  On the way every
declaration is seen together with its ancestors.

The invariant `IsWalk` says what is special about this order: a declaration is
preceded by all its ancestors and followed at once by all that lies below it.
-/

namespace CaptureForest

/-- A declaration on the walk with its ancestors, root first. -/
structure Visit where
  ancestors : List Declaration
  node : Declaration

namespace Outline

mutual

/-- The visits of one tree below the given ancestors. -/
def visits (ancestors : List Declaration) : Outline → List Visit
  | .node d cs =>
    ⟨ancestors, d⟩ :: if d.hasChildren then visitsAll (ancestors ++ [d]) cs else []

def visitsAll (ancestors : List Declaration) : List Outline → List Visit
  | [] => []
  | o :: rest => visits ancestors o ++ visitsAll ancestors rest

end

theorem visitsAll_eq_flatMap (ancestors : List Declaration) (trees : List Outline) :
    visitsAll ancestors trees = trees.flatMap (visits ancestors) := by
  induction trees with
  | nil => rfl
  | cons o rest ih => rw [visitsAll, ih, List.flatMap_cons]

end Outline

namespace Declaration

/-- Whatever passes from the children to their parent holds of every
declaration. -/
theorem induction {P : Declaration → Prop}
    (step : ∀ d : Declaration, (∀ child ∈ d.children, P child) → P d)
    (d : Declaration) : P d :=
  step d fun child _ => induction step child
termination_by d.height
decreasing_by exact height_lt_of_mem_children ‹_›

/-- The visits of the tree below a declaration. -/
def visits (ancestors : List Declaration) (d : Declaration) : List Visit :=
  d.outline.visits ancestors

theorem children_of_not_hasChildren {d : Declaration} (h : d.hasChildren = false) :
    d.children = [] := by
  simp [children, h]

theorem visitsAll_outline (ancestors nodes : List Declaration) :
    Outline.visitsAll ancestors (nodes.map outline) = nodes.flatMap (visits ancestors) := by
  rw [Outline.visitsAll_eq_flatMap, List.flatMap_map]
  rfl

theorem visits_eq (ancestors : List Declaration) (d : Declaration) :
    d.visits ancestors =
      ⟨ancestors, d⟩ :: d.children.flatMap (visits (ancestors ++ [d])) := by
  rw [visits, outline_eq, Outline.visits, visitsAll_outline]
  cases h : d.hasChildren with
  | true => rfl
  | false => simp [children_of_not_hasChildren h]

end Declaration

namespace Visit

/-- The declarations from the root down to the visited one. -/
def lineage (u : Visit) : List Declaration := u.ancestors ++ [u.node]

/-- The visits below the visited declaration. -/
def below (u : Visit) : List Visit :=
  u.node.children.flatMap (Declaration.visits u.lineage)

end Visit

theorem Declaration.visits_eq_cons_below (ancestors : List Declaration)
    (d : Declaration) :
    d.visits ancestors = ⟨ancestors, d⟩ :: Visit.below ⟨ancestors, d⟩ :=
  d.visits_eq ancestors

theorem Declaration.prefix_ancestors_of_mem_visits {ancestors : List Declaration} {d : Declaration}
    {w : Visit} (h : w ∈ d.visits ancestors) : ancestors <+: w.ancestors := by
  induction d using Declaration.induction generalizing ancestors with
  | step d ih =>
      rw [Declaration.visits_eq] at h
      rcases List.mem_cons.mp h with rfl | h
      · exact List.prefix_rfl
      · obtain ⟨child, hchild, hw⟩ := List.mem_flatMap.mp h
        exact (List.prefix_append ancestors [d]).trans (ih child hchild hw)

theorem Visit.lineage_prefix_of_mem_below {u w : Visit} (h : w ∈ u.below) :
    u.lineage <+: w.ancestors := by
  obtain ⟨child, -, hw⟩ := List.mem_flatMap.mp h
  exact Declaration.prefix_ancestors_of_mem_visits hw

theorem Visit.below_eq_nil_iff (u : Visit) : u.below = [] ↔ u.node.children = [] := by
  unfold Visit.below
  rw [List.flatMap_eq_nil_iff, List.eq_nil_iff_forall_not_mem]
  refine forall₂_congr fun child _ => iff_false_intro ?_
  rw [Declaration.visits_eq]
  exact List.cons_ne_nil _ _

/-- The visits of all trees of a forest. -/
def Forest.visits (forest : Value) : List Visit :=
  match Declaration.ofForest forest with
  | .ok roots => roots.flatMap (Declaration.visits [])
  | .error _ => []

theorem Forest.visits_of_ofForest {forest : Value} {roots : List Declaration}
    (h : Declaration.ofForest forest = .ok roots) :
    Forest.visits forest = roots.flatMap (Declaration.visits []) := by
  simp [Forest.visits, h]

/-! ### The order of the walk -/

/-- Every visit of the walk is followed at once by a block with the property. -/
def FollowedBy (P : Visit → List Visit → Prop) (walk : List Visit) : Prop :=
  ∀ before u after, walk = before ++ u :: after → ∃ block rest, after = block ++ rest ∧ P u block

namespace FollowedBy

variable {P : Visit → List Visit → Prop}

theorem nil : FollowedBy P [] := by
  intro before u after h
  cases before <;> cases h

theorem cons {u : Visit} {block : List Visit} (hu : P u block) (h : FollowedBy P block) :
    FollowedBy P (u :: block) := by
  intro before w after hwalk
  cases before with
  | nil =>
      obtain ⟨rfl, rfl⟩ := List.cons.inj hwalk
      exact ⟨block, [], (List.append_nil block).symm, hu⟩
  | cons first before => exact h before w after (List.cons.inj hwalk).2

theorem append {xs ys : List Visit} (hxs : FollowedBy P xs) (hys : FollowedBy P ys) :
    FollowedBy P (xs ++ ys) := by
  -- a split of the joined walk falls into `ys`, or into `xs` with `ys` after it
  intro before u after h
  rcases List.append_eq_append_iff.mp h with ⟨zs, rfl, hzs⟩ | ⟨zs, hzs, hafter⟩
  · exact hys zs u after hzs
  · cases zs with
    | nil => exact hys [] u after hafter.symm
    | cons w zs =>
        obtain ⟨rfl, rfl⟩ := List.cons.inj hafter
        obtain ⟨block, rest, rfl, hblock⟩ := hxs before _ _ hzs
        exact ⟨block, rest ++ ys, List.append_assoc block rest ys, hblock⟩

theorem flatMap {nodes : List Declaration} {walk : Declaration → List Visit}
    (h : ∀ d ∈ nodes, FollowedBy P (walk d)) : FollowedBy P (nodes.flatMap walk) := by
  induction nodes with
  | nil => exact nil
  | cons d rest ih =>
      rw [List.flatMap_cons]
      exact (h d List.mem_cons_self).append (ih fun d' hd' => h d' (List.mem_cons_of_mem d hd'))

end FollowedBy

/-- Below the given ancestors, every visit comes after the visits of its
ancestors and right before the visits below it. -/
structure IsWalk (ancestors : List Declaration) (walk : List Visit) : Prop where
  followed : ∀ before u after, walk = before ++ u :: after →
    ∃ rest, after = u.below ++ rest
  preceded : ∀ before u after, walk = before ++ u :: after →
    ∀ a ∈ u.ancestors, a ∈ ancestors ∨ ∃ w ∈ before, w.node = a

namespace IsWalk

theorem followedBy_iff (walk : List Visit) :
    FollowedBy (fun u block => block = u.below) walk ↔
      ∀ before u after, walk = before ++ u :: after → ∃ rest, after = u.below ++ rest := by
  refine forall₂_congr fun before u => forall₂_congr fun after _ => ?_
  constructor
  · rintro ⟨block, rest, hafter, rfl⟩
    exact ⟨rest, hafter⟩
  · rintro ⟨rest, hafter⟩
    exact ⟨u.below, rest, hafter, rfl⟩

theorem nil (ancestors : List Declaration) : IsWalk ancestors [] := by
  constructor
  · exact (followedBy_iff []).mp .nil
  · intro before u after h
    cases before <;> cases h

theorem append {ancestors : List Declaration} {xs ys : List Visit}
    (hxs : IsWalk ancestors xs) (hys : IsWalk ancestors ys) :
    IsWalk ancestors (xs ++ ys) := by
  constructor
  · exact (followedBy_iff _).mp <|
      ((followedBy_iff xs).mpr hxs.followed).append ((followedBy_iff ys).mpr hys.followed)
  · intro before u after h a ha
    rcases List.append_eq_append_iff.mp h with ⟨zs, rfl, hzs⟩ | ⟨zs, hzs, hafter⟩
    · refine (hys.preceded zs u after hzs a ha).imp_right ?_
      rintro ⟨w, hw, hnode⟩
      exact ⟨w, List.mem_append_right xs hw, hnode⟩
    · cases zs with
      | nil =>
          refine (hys.preceded [] u after hafter.symm a ha).imp_right ?_
          rintro ⟨w, hw, -⟩
          cases hw
      | cons w zs =>
          simp only [List.cons_append, List.cons.injEq] at hafter
          obtain ⟨rfl, -⟩ := hafter
          exact hxs.preceded before u zs hzs a ha

theorem flatMap {ancestors : List Declaration} {nodes : List Declaration}
    (h : ∀ d ∈ nodes, IsWalk ancestors (d.visits ancestors)) :
    IsWalk ancestors (nodes.flatMap (Declaration.visits ancestors)) := by
  induction nodes with
  | nil => exact nil ancestors
  | cons d rest ih =>
      rw [List.flatMap_cons]
      exact (h d List.mem_cons_self).append
        (ih fun d' hd' => h d' (List.mem_cons_of_mem d hd'))

theorem cons {ancestors : List Declaration} {d : Declaration}
    (h : IsWalk (ancestors ++ [d]) (Visit.below ⟨ancestors, d⟩)) :
    IsWalk ancestors (⟨ancestors, d⟩ :: Visit.below ⟨ancestors, d⟩) := by
  constructor
  · exact (followedBy_iff _).mp (.cons rfl ((followedBy_iff _).mpr h.followed))
  · intro before u after hwalk a ha
    cases before with
    | nil =>
        simp only [List.nil_append, List.cons.injEq] at hwalk
        obtain ⟨rfl, rfl⟩ := hwalk
        exact .inl ha
    | cons first before =>
        simp only [List.cons_append, List.cons.injEq] at hwalk
        obtain ⟨rfl, hwalk⟩ := hwalk
        rcases h.preceded before u after hwalk a ha with ha | ⟨w, hw, hnode⟩
        · rcases List.mem_append.mp ha with ha | ha
          · exact .inl ha
          · rw [List.mem_singleton] at ha
            exact .inr ⟨_, List.mem_cons_self, ha.symm⟩
        · exact .inr ⟨w, List.mem_cons_of_mem _ hw, hnode⟩

theorem visits (ancestors : List Declaration) (d : Declaration) :
    IsWalk ancestors (d.visits ancestors) := by
  induction d using Declaration.induction generalizing ancestors with
  | step d ih =>
      rw [Declaration.visits_eq_cons_below]
      exact cons (flatMap fun child hchild => ih child hchild _)

theorem forest (forest : Value) : IsWalk [] (Forest.visits forest) := by
  unfold Forest.visits
  split
  · exact flatMap fun d _ => visits [] d
  · exact nil []

end IsWalk

namespace Forest

variable {v : Value} {before after : List Visit} {u : Visit}

theorem mem_visits_of_split (hsplit : visits v = before ++ u :: after) : u ∈ visits v := by
  rw [hsplit]
  exact List.mem_append_right _ List.mem_cons_self

theorem mem_visits_of_mem_before (hsplit : visits v = before ++ u :: after) {w : Visit}
    (hw : w ∈ before) : w ∈ visits v := by
  rw [hsplit]
  exact List.mem_append_left _ hw

/-- What holds before a visit holds of its ancestors. -/
theorem forall_ancestors_of_split {P : Declaration → Prop}
    (hsplit : visits v = before ++ u :: after) (hbefore : ∀ w ∈ before, P w.node) :
    ∀ a ∈ u.ancestors, P a := by
  intro a ha
  rcases (IsWalk.forest v).preceded before u after hsplit a ha with ha | ⟨w, hw, rfl⟩
  · cases ha
  · exact hbefore w hw

theorem forall_lineage {P : Declaration → Prop} (hall : ∀ w ∈ visits v, P w.node)
    (hu : u ∈ visits v) : ∀ d ∈ u.lineage, P d := by
  obtain ⟨before, after, hsplit⟩ := List.append_of_mem hu
  intro d hd
  rcases List.mem_append.mp hd with hd | hd
  · apply forall_ancestors_of_split hsplit ?_ d hd
    intro w hw
    exact hall w (mem_visits_of_mem_before hsplit hw)
  · rw [List.mem_singleton] at hd
    rw [hd]
    exact hall u hu

end Forest

end CaptureForest
