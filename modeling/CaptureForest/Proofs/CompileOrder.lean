import CaptureForest.Proofs.Compilation
import CaptureForest.Proofs.Sorting

/-!
# Compiling in sorted order

A compilation visits what the walk visits, but takes the roots and the children
of each group in the order to which the plan sorts them.  A sort decides only by
the declarations, so it puts the results of compiling them in the same order as
the visits below them.  Entries and hooks of a compilation therefore stand in the
order of these visits.
-/

namespace CaptureForest

/-! ### The order of a compilation -/

namespace Compile

/-- What belongs to declarations in the order of the declarations, or as it is if
they cannot be put in order. -/
def arranged {α : Type} (sorter : Sorter) (order : Option Less) (parts : List (Declaration × α)) :
    List (Declaration × α) :=
  match arrange sorter order parts with
  | .ok sorted => sorted
  | .error _ => parts

theorem arrange_perm {α : Type} {sorter : Sorter} {order : Option Less}
    {parts sorted : List (Declaration × α)} (h : arrange sorter order parts = .ok sorted) :
    sorted.Perm parts := by
  cases order with
  | none =>
      obtain rfl := Except.ok.inj h
      exact .refl parts
  | some less => exact Sorter.sort_perm h

theorem arranged_perm {α : Type} (sorter : Sorter) (order : Option Less)
    (parts : List (Declaration × α)) : (arranged sorter order parts).Perm parts := by
  unfold arranged
  cases harrange : arrange sorter order parts with
  | error e => exact .refl parts
  | ok sorted => exact arrange_perm harrange

/-- Parts of the same declarations are put in the same order. -/
theorem arranged_related {α β : Type} {R : Declaration × α → Declaration × β → Prop}
    (hdeclaration : ∀ a b, R a b → a.1 = b.1) {sorter : Sorter} {order : Option Less}
    {parts sorted : List (Declaration × α)} {parts' : List (Declaration × β)}
    (hparts : List.Forall₂ R parts parts') (h : arrange sorter order parts = .ok sorted) :
    List.Forall₂ R sorted (arranged sorter order parts') := by
  unfold arranged
  cases order with
  | none =>
      obtain rfl := Except.ok.inj h
      exact hparts
  | some less =>
      have hless : ∀ a b c d, R a b → R c d → less a.1 c.1 = less b.1 d.1 := by
        intro a b c d hab hcd
        rw [hdeclaration a b hab, hdeclaration c d hcd]
      obtain ⟨sorted', hsort, hsorted⟩ := Sorter.sort_related hless hparts h
      rw [arrange, hsort]
      exact hsorted

end Compile

mutual

/-- The visits of a tree, with the children of each group in sorted order. -/
def Outline.compileOrder (plan : Plan) (ancestors : List Declaration) : Outline → List Visit
  | .node d cs =>
    ⟨ancestors, d⟩ ::
      if d.hasChildren then
        (Compile.arranged plan.sorter plan.sortChildren (compileOrders plan (ancestors ++ [d]) cs)).flatMap
          (·.2)
      else []

def Outline.compileOrders (plan : Plan) (ancestors : List Declaration) :
    List Outline → List (Declaration × List Visit)
  | [] => []
  | o :: rest => (o.declaration, compileOrder plan ancestors o) :: compileOrders plan ancestors rest

end

/-- The visits of a forest in the order in which they are compiled. -/
def Forest.compileOrder (plan : Plan) (forest : Value) : List Visit :=
  match Declaration.ofForest forest with
  | .ok roots =>
    (Compile.arranged plan.sorter plan.sortForest
      (Outline.compileOrders plan [] (roots.map Declaration.outline))).flatMap (·.2)
  | .error _ => []

mutual

theorem Outline.compileOrder_perm (plan : Plan) (ancestors : List Declaration) :
    ∀ o : Outline, (o.compileOrder plan ancestors).Perm (o.visits ancestors)
  | .node d cs => by
    rw [compileOrder, visits]
    refine List.Perm.cons _ ?_
    split
    · exact ((Compile.arranged_perm _ _ _).flatMap_right _).trans
        (compileOrders_perm plan (ancestors ++ [d]) cs)
    · exact .refl []

theorem Outline.compileOrders_perm (plan : Plan) (ancestors : List Declaration) :
    ∀ os : List Outline,
      ((compileOrders plan ancestors os).flatMap (·.2)).Perm (visitsAll ancestors os)
  | [] => .refl []
  | o :: rest => by
    rw [compileOrders, visitsAll, List.flatMap_cons]
    exact (compileOrder_perm plan ancestors o).append (compileOrders_perm plan ancestors rest)

end

/-- Every visit of the walk is compiled once. -/
theorem Forest.compileOrder_perm (plan : Plan) (v : Value) :
    (compileOrder plan v).Perm (visits v) := by
  unfold compileOrder visits
  cases Declaration.ofForest v with
  | error e => exact .refl []
  | ok roots =>
      have hperm := Outline.compileOrders_perm plan [] (roots.map Declaration.outline)
      rw [Declaration.visitsAll_outline] at hperm
      exact ((Compile.arranged_perm _ _ _).flatMap_right _).trans hperm

/-! ### Entries and hooks in this order -/

/-- The registrations of a visited declaration; a group has none. -/
def Visit.registrations (u : Visit) : List HookRegistration :=
  if u.node.hasChildren then [] else u.node.hooks (Compile.fullKey u.ancestors u.node)

theorem Visit.exists_phase_of_mem_registrations {u : Visit} {hook : HookRegistration}
    (h : hook ∈ u.registrations) :
    ∃ p : HookPhase, hook =
      { key := .str (Compile.fullKey u.ancestors u.node), callback := u.node.get p.slot
        phase := .phase p, entryName := u.node.name } := by
  unfold registrations at h
  split at h
  · cases h
  · obtain ⟨p, -, rfl⟩ := List.mem_map.mp h
    exact ⟨p, rfl⟩

namespace Compile

/-- Entries and registrations are those of visits, in the order of the visits. -/
structure AreOf (defaultType : EntryType) (visits : List Visit) (entries : List Entry)
    (hooks : List HookRegistration) : Prop where
  entries : List.Forall₂ (fun u e => Visit.entry defaultType u = .ok e) visits entries
  hooks : hooks = visits.flatMap Visit.registrations

variable {plan : Plan} {defaultType : EntryType}

theorem AreOf.nil : AreOf defaultType [] [] [] := ⟨.nil, rfl⟩

theorem AreOf.append {us ws : List Visit} {es fs : List Entry} {hs ks : List HookRegistration}
    (h : AreOf defaultType us es hs) (h' : AreOf defaultType ws fs ks) :
    AreOf defaultType (us ++ ws) (es ++ fs) (hs ++ ks) where
  entries := List.rel_append h.entries h'.entries
  hooks := by rw [List.flatMap_append, h.hooks, h'.hooks]

/-- A tree compiles to what belongs to the visits that are kept beside it. -/
def Fits (defaultType : EntryType) (part : Declaration × Except Fault Compiled)
    (visited : Declaration × List Visit) : Prop :=
  part.1 = visited.1 ∧
    ∀ c, part.2 = .ok c → AreOf defaultType visited.2 c.tree.flatten c.hooks

theorem areOf_of_gather {parts : List (Declaration × Except Fault Compiled)}
    {visited : List (Declaration × List Visit)} (h : List.Forall₂ (Fits defaultType) parts visited)
    {compiled : List Compiled} (hgather : gather parts = .ok compiled) :
    AreOf defaultType (visited.flatMap (·.2)) (EntryTree.flattenAll (compiled.map (·.tree)))
      (compiled.flatMap (·.hooks)) := by
  induction h generalizing compiled with
  | nil =>
      obtain rfl := Except.ok.inj hgather
      exact .nil
  | @cons part visits rest others hpart hrest ih =>
      obtain ⟨d, result⟩ := part
      cases result with
      | error e => cases hgather
      | ok first =>
          rw [gather] at hgather
          cases hothers : gather rest with
          | error e => simp [hothers] at hgather
          | ok compiledRest =>
              simp only [hothers, Except.ok.injEq] at hgather
              rw [← hgather]
              exact (hpart.2 first rfl).append (ih hothers)

mutual

theorem areOf_of_tree (ancestors : List Declaration) :
    ∀ (o : Outline) {c : Compiled}, tree plan ancestors o = .ok c →
      AreOf plan.defaultType (o.compileOrder plan ancestors) c.tree.flatten c.hooks
  | .node d cs, c, h => by
    rw [Outline.compileOrder]
    rw [tree] at h
    cases hvalidate : d.validate ancestors with
    | error e => simp [hvalidate] at h
    | ok _ =>
        cases hchildren : d.hasChildren with
        | true =>
            simp only [hvalidate, hchildren, if_true] at h
            cases harrange : arrange plan.sorter plan.sortChildren (trees plan (ancestors ++ [d]) cs) with
            | error e => simp [harrange] at h
            | ok parts =>
                cases hgather : gather parts with
                | error e => simp [harrange, hgather] at h
                | ok children =>
                    simp only [harrange, hgather, Except.ok.injEq] at h
                    -- the sort of the results is the sort of the visits, so these still fit
                    have hparts := arranged_related (fun a b hab => hab.1)
                      (fits_trees (ancestors ++ [d]) cs) harrange
                    have hbelow := areOf_of_gather hparts hgather
                    rw [← h, if_pos rfl]
                    constructor
                    · refine .cons ?_ hbelow.entries
                      simp [Visit.entry, hvalidate, hchildren]
                    · rw [List.flatMap_cons, Visit.registrations, if_pos hchildren,
                        List.nil_append]
                      exact hbelow.hooks
        | false =>
            simp only [hvalidate, hchildren, leaf, Bool.false_eq_true, if_false] at h
            cases hleaf : d.leaf plan.defaultType ancestors (fullKey ancestors d) with
            | error e => simp [hleaf] at h
            | ok l =>
                simp only [hleaf, Except.ok.injEq] at h
                rw [← h, if_neg Bool.false_ne_true]
                constructor
                · refine .cons ?_ .nil
                  simp [Visit.entry, hvalidate, hchildren, hleaf]
                · simp [Visit.registrations, hchildren]

theorem fits_trees (ancestors : List Declaration) :
    ∀ os : List Outline, List.Forall₂ (Fits plan.defaultType) (trees plan ancestors os)
      (Outline.compileOrders plan ancestors os)
  | [] => .nil
  | o :: rest => .cons ⟨rfl, fun _ hc => areOf_of_tree ancestors o hc⟩ (fits_trees ancestors rest)

end

/-- The entries and hooks of a compilation are those of its visits, in the order
in which they are compiled. -/
theorem areOf_of_forest {v : Value} {c : Compilation} (h : forest plan v = .ok c) :
    AreOf plan.defaultType (Forest.compileOrder plan v) c.entries c.hooks := by
  unfold forest at h
  unfold Forest.compileOrder
  cases hnodes : Declaration.ofForest v with
  | error e => simp [hnodes] at h
  | ok nodes =>
      simp only [hnodes, roots] at h
      cases harrange : arrange plan.sorter plan.sortForest (trees plan [] (nodes.map Declaration.outline)) with
      | error e => simp [harrange] at h
      | ok parts =>
          cases hgather : gather parts with
          | error e => simp [harrange, hgather] at h
          | ok compiled =>
              simp only [harrange, hgather, Except.ok.injEq] at h
              have hparts := arranged_related (fun a b hab => hab.1)
                (fits_trees [] (nodes.map Declaration.outline)) harrange
              rw [← h]
              exact areOf_of_gather hparts hgather

theorem exists_visit_of_mem_entries {v : Value} {c : Compilation} (h : forest plan v = .ok c)
    {e : Entry} (he : e ∈ c.entries) :
    ∃ u ∈ Forest.visits v, u.entry plan.defaultType = .ok e := by
  obtain ⟨u, hu, hentry⟩ := exists_related_of_mem (areOf_of_forest h).entries.flip he
  exact ⟨u, (Forest.compileOrder_perm plan v).mem_iff.mp hu, hentry⟩

theorem exists_entry_of_mem_visits {v : Value} {c : Compilation} (h : forest plan v = .ok c)
    {u : Visit} (hu : u ∈ Forest.visits v) :
    ∃ e ∈ c.entries, u.entry plan.defaultType = .ok e :=
  exists_related_of_mem (areOf_of_forest h).entries
    ((Forest.compileOrder_perm plan v).mem_iff.mpr hu)

end Compile

end CaptureForest
