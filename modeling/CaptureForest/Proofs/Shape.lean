import CaptureForest.Declaration.Children
import Mathlib.Data.List.Forall2

/-!
# Values that stand for declarations

The shapes of forests and of children, stated without the readers of them: a
list of items stands for declarations if every item describes one, and
otherwise the first item that describes none is to blame.  The readers accept
exactly these shapes and name exactly that item.
-/

namespace CaptureForest

/-- The items describe the declarations, one each. -/
def DescribesAll (items : List Value) (nodes : List Declaration) : Prop :=
  List.Forall₂ (fun item d => Declaration.ofValue? item = some d) items nodes

/-- After the items `before`, which describe declarations, `item` is the first
that describes none. -/
def FirstMisfit (items before : List Value) (item : Value) : Prop :=
  (∃ after, items = before ++ item :: after) ∧
    (∀ other ∈ before, ∃ d, Declaration.ofValue? other = some d) ∧
      Declaration.ofValue? item = none

/-- A value stands for children if it describes one declaration, or is a
sequence, not empty, whose items describe one each. -/
inductive DescribesChildren : Value → List Declaration → Prop
  | one {v : Value} {d : Declaration} (h : Declaration.ofValue? v = some d) :
      DescribesChildren v [d]
  | many {v : Value} {items : List Value} {nodes : List Declaration}
      (hitems : v.items? = some items) (hne : items ≠ [])
      (h : DescribesAll items nodes) : DescribesChildren v nodes

/-- What is wrong with the children of a declaration that are ill shaped. -/
inductive ChildrenFault (node : Declaration) : CaptureError → Prop
  | kind (hnode : Declaration.ofValue? (node.get "children") = none)
      (hitems : (node.get "children").items? = none) :
      ChildrenFault node
        (.childrenShape node.name ("got " ++ (node.get "children").typeName))
  | item {items before : List Value} {item : Value}
      (hitems : (node.get "children").items? = some items)
      (h : FirstMisfit items before item) :
      ChildrenFault node (.childrenShape node.name
        ("element " ++ toString before.length ++ " is a " ++ item.typeName))

/-- What is wrong with a value that is no forest. -/
inductive ForestFault (forest : Value) : CaptureError → Prop
  | kind (hitems : forest.items? = none) :
      ForestFault forest (.invalidArgument
        ("Declarations must be given as a list, got " ++ forest.typeName) "forest")
  | item {items before : List Value} {item : Value}
      (hitems : forest.items? = some items) (h : FirstMisfit items before item) :
      ForestFault forest (.invalidArgument
        ("Forest element " ++ toString before.length ++ " is a " ++ item.typeName ++
          ", not a declaration") "forest")

theorem FirstMisfit.cons {x item : Value} {rest before : List Value} {d : Declaration}
    (hx : Declaration.ofValue? x = some d) (h : FirstMisfit rest before item) :
    FirstMisfit (x :: rest) (x :: before) item := by
  obtain ⟨⟨after, rfl⟩, hbefore, hitem⟩ := h
  refine ⟨⟨after, rfl⟩, ?_, hitem⟩
  intro other hother
  rcases List.mem_cons.mp hother with rfl | hother
  · exact ⟨d, hx⟩
  · exact hbefore other hother

namespace Declaration

/-- A sequence is never a declaration itself. -/
theorem ofValue?_of_items? {v : Value} {items : List Value} (h : v.items? = some items) :
    ofValue? v = none := by
  cases v <;> simp_all [ofValue?, Value.items?]

theorem ofItems_eq_ok_iff (index : Nat) (items : List Value) (nodes : List Declaration) :
    ofItems index items = .ok nodes ↔ DescribesAll items nodes := by
  unfold DescribesAll
  induction items generalizing index nodes with
  | nil =>
      rw [List.forall₂_nil_left_iff]
      simp only [ofItems, Except.ok.injEq]
      exact eq_comm
  | cons item rest ih =>
      rw [List.forall₂_cons_left_iff]
      simp only [ofItems]
      cases hitem : ofValue? item with
      | none => simp
      | some d =>
          simp only [← ih (index + 1)]
          cases hrest : ofItems (index + 1) rest with
          | error e => simp
          | ok others =>
              simp only [Except.ok.injEq, Option.some.injEq]
              constructor
              · rintro rfl
                exact ⟨d, others, rfl, rfl, rfl⟩
              · rintro ⟨d', others', rfl, rfl, rfl⟩
                rfl

theorem firstMisfit_of_ofItems {index : Nat} {items : List Value} {place : Nat}
    {item : Value} (h : ofItems index items = .error (place, item)) :
    ∃ before, place = index + before.length ∧ FirstMisfit items before item := by
  induction items generalizing index with
  | nil => cases h
  | cons x rest ih =>
      simp only [ofItems] at h
      cases hx : ofValue? x with
      | none =>
          simp only [hx, Except.error.injEq, Prod.mk.injEq] at h
          obtain ⟨rfl, rfl⟩ := h
          exact ⟨[], rfl, ⟨rest, rfl⟩, by simp, hx⟩
      | some d =>
          simp only [hx] at h
          cases hrest : ofItems (index + 1) rest with
          | ok others => simp [hrest] at h
          | error e =>
              simp only [hrest, Except.error.injEq] at h
              subst h
              obtain ⟨before, hplace, hmisfit⟩ := ih hrest
              refine ⟨x :: before, ?_, hmisfit.cons hx⟩
              rw [hplace, List.length_cons]
              omega

theorem ofItems_of_firstMisfit {items before : List Value} {item : Value}
    (h : FirstMisfit items before item) (index : Nat) :
    ofItems index items = .error (index + before.length, item) := by
  obtain ⟨⟨after, rfl⟩, hbefore, hitem⟩ := h
  induction before generalizing index with
  | nil => simp [ofItems, hitem]
  | cons x before ih =>
      obtain ⟨d, hx⟩ := hbefore x List.mem_cons_self
      have hrest := ih (index + 1)
        fun other hother => hbefore other (List.mem_cons_of_mem x hother)
      simp only [List.cons_append, ofItems, hx, hrest, List.length_cons]
      rw [Nat.add_right_comm, Nat.add_assoc]

/-! ### Forests -/

theorem ofForest_eq_ok_iff (forest : Value) (roots : List Declaration) :
    ofForest forest = .ok roots ↔
      ∃ items, forest.items? = some items ∧ DescribesAll items roots := by
  unfold ofForest
  cases hitems : forest.items? with
  | none => simp
  | some items =>
      simp only [Option.some.injEq, exists_eq_left', ← ofItems_eq_ok_iff 0]
      cases ofItems 0 items <;> simp

theorem ofForest_eq_error_iff (forest : Value) (e : CaptureError) :
    ofForest forest = .error e ↔ ForestFault forest e := by
  constructor
  · intro h
    unfold ofForest at h
    split at h
    · rename_i hitems
      simp only [Except.error.injEq] at h
      subst h
      exact .kind hitems
    · rename_i items hitems
      split at h
      · cases h
      · rename_i place item hfound
        simp only [Except.error.injEq] at h
        subst h
        obtain ⟨before, rfl, hmisfit⟩ := firstMisfit_of_ofItems hfound
        rw [Nat.zero_add]
        exact .item hitems hmisfit
  · intro h
    cases h with
    | kind hitems => simp [ofForest, hitems]
    | item hitems hmisfit =>
        simp [ofForest, hitems, ofItems_of_firstMisfit hmisfit]

/-! ### Children -/

theorem items_ne_nil_of_hasChildren {node : Declaration} (h : node.hasChildren = true)
    {items : List Value} (hitems : (node.get "children").items? = some items) :
    items ≠ [] := by
  rintro rfl
  simp [hasChildren, hitems] at h

theorem childList_eq_ok_iff {node : Declaration} (h : node.hasChildren = true)
    (nodes : List Declaration) :
    node.childList = .ok nodes ↔ DescribesChildren (node.get "children") nodes := by
  unfold childList
  dsimp only
  constructor
  · intro hlist
    split at hlist
    · rename_i child hchild
      simp only [Except.ok.injEq] at hlist
      subst hlist
      exact .one hchild
    · split at hlist
      · cases hlist
      · rename_i items hitems
        split at hlist
        · rename_i found hfound
          simp only [Except.ok.injEq] at hlist
          subst hlist
          exact .many hitems (items_ne_nil_of_hasChildren h hitems)
            ((ofItems_eq_ok_iff 0 items found).mp hfound)
        · cases hlist
  · intro hchildren
    cases hchildren with
    | one hchild => simp [hchild]
    | many hitems _ hall =>
        simp [ofValue?_of_items? hitems, hitems, (ofItems_eq_ok_iff 0 _ nodes).mpr hall]

theorem childList_eq_error_iff (node : Declaration) (e : CaptureError) :
    node.childList = .error e ↔ ChildrenFault node e := by
  constructor
  · intro h
    unfold childList at h
    dsimp only at h
    split at h
    · cases h
    · rename_i hnode
      split at h
      · rename_i hitems
        simp only [Except.error.injEq] at h
        subst h
        exact .kind hnode hitems
      · rename_i items hitems
        split at h
        · cases h
        · rename_i place item hfound
          simp only [Except.error.injEq] at h
          subst h
          obtain ⟨before, rfl, hmisfit⟩ := firstMisfit_of_ofItems hfound
          rw [Nat.zero_add]
          exact .item hitems hmisfit
  · intro h
    cases h with
    | kind hnode hitems => simp [childList, hnode, hitems]
    | item hitems hmisfit =>
        simp [childList, ofValue?_of_items? hitems, hitems,
          ofItems_of_firstMisfit hmisfit]

theorem children_eq_of_childList {node : Declaration} (h : node.hasChildren = true)
    {nodes : List Declaration} (hlist : node.childList = .ok nodes) :
    node.children = nodes := by
  simp [children, h, hlist]

end Declaration

theorem DescribesChildren.ne_nil {v : Value} {nodes : List Declaration}
    (h : DescribesChildren v nodes) : nodes ≠ [] := by
  cases h with
  | one _ => simp
  | many _ hne hall =>
      rintro rfl
      exact hne (List.forall₂_nil_right_iff.mp hall)

end CaptureForest
