import CaptureForest.Compile.Trace
import Mathlib.Data.List.Forall2

/-!
# Sorting and its questions

A sort knows its items only by the answers to its questions.  So it does the same
with items that give the same answers, and it fails exactly if one of the
questions that it asks fails.  A compilation sorts results by their declarations,
which comes to sorting the declarations first and compiling them in that order.
-/

namespace CaptureForest

/-- An inquiry fails as one of its answers does. -/
theorem Inquiry.run_eq_error_iff {ι α ε : Type} (q : Inquiry ι α) (answer : ι → ι → Except ε Bool)
    (e : ε) : q.run answer = .error e ↔ ∃ p ∈ q.asked answer, answer p.1 p.2 = .error e := by
  induction q with
  | done a => simp [run, asked]
  | ask x y next ih =>
      rw [run, asked]
      cases hanswer : answer x y with
      | error f => simp [hanswer]
      | ok b => simp [hanswer, ih]

/-- What follows an answered inquiry goes on from its result. -/
theorem Inquiry.run_bind_of_ok {ι α β ε : Type} {q : Inquiry ι α}
    {answer : ι → ι → Except ε Bool} {a : α} (h : q.run answer = .ok a) (f : α → Inquiry ι β) :
    (q >>= f).run answer = (f a).run answer := by
  induction q with
  | done b =>
      obtain rfl := Except.ok.inj h
      rfl
  | ask x y next ih =>
      have hask : Inquiry.ask x y next >>= f = .ask x y fun b => next b >>= f := rfl
      rw [hask, run]
      rw [run] at h
      cases hanswer : answer x y with
      | error e => simp [hanswer] at h
      | ok b =>
          rw [hanswer] at h
          exact ih b h

theorem Inquiry.run_whether {ι ε : Type} (x y : ι) (answer : ι → ι → Except ε Bool) :
    (whether x y).run answer = answer x y := by
  rw [whether, run]
  cases answer x y <;> rfl

namespace Sorter

variable {α β ε : Type} {s : Sorter}

theorem sort_of_length (s : Sorter) (less : α → α → Except ε Bool) {items : List α} {n : Nat}
    (h : items.length = n) :
    s.sort less items =
      ((s.inquiry n).run fun i j =>
          precedes less (items.get (i.cast h.symm)) (items.get (j.cast h.symm))).map
        (List.map fun i => items.get (i.cast h.symm)) := by
  subst h
  rw [sort]
  simp only [Fin.cast_refl, id]
  cases (s.inquiry items.length).run fun i j => precedes less (items.get i) (items.get j) <;> rfl

/-- Images are sorted as the items are by what the images answer. -/
theorem sort_map (less : β → β → Except ε Bool) (g : α → β) (items : List α) :
    s.sort less (items.map g) =
      (s.sort (fun a b => less (g a) (g b)) items).map (List.map g) := by
  have hquestions : ∀ a b, precedes less (g a) (g b) = precedes (fun a b => less (g a) (g b)) a b :=
    fun _ _ => rfl
  rw [sort_of_length s less (List.length_map g), sort_of_length s _ rfl]
  simp only [List.get_eq_getElem, List.getElem_map, Fin.val_cast, hquestions]
  cases (s.inquiry items.length).run fun i j =>
    precedes (fun a b => less (g a) (g b)) items[i] items[j] <;> simp [Except.map]

/-- Sorts that ask the same questions about related items put them in the same
order. -/
theorem sort_related {R : α → β → Prop} {less : α → α → Except ε Bool}
    {less' : β → β → Except ε Bool} (hless : ∀ a b c d, R a b → R c d → less a c = less' b d)
    {xs ys : List α} {xs' : List β} (hxs : List.Forall₂ R xs xs') (h : s.sort less xs = .ok ys) :
    ∃ ys', s.sort less' xs' = .ok ys' ∧ List.Forall₂ R ys ys' := by
  have hget : ∀ i : Fin xs.length, R (xs.get i) (xs'.get (i.cast hxs.length_eq)) :=
    fun i => hxs.get i.isLt (hxs.length_eq ▸ i.isLt)
  have hanswers : (fun i j : Fin xs.length => precedes less (xs.get i) (xs.get j)) =
      fun i j => precedes less' (xs'.get (i.cast hxs.length_eq)) (xs'.get (j.cast hxs.length_eq)) := by
    funext i j
    rw [precedes, precedes, hless _ _ _ _ (hget i) (hget j), hless _ _ _ _ (hget j) (hget i)]
  rw [sort, hanswers] at h
  rw [sort_of_length s less' hxs.length_eq.symm]
  split at h
  · cases h
  · rename_i places hplaces
    obtain rfl := Except.ok.inj h
    refine ⟨_, by rw [hplaces, Except.map], ?_⟩
    rw [List.forall₂_map_left_iff, List.forall₂_map_right_iff]
    exact List.forall₂_same.mpr fun i _ => hget i

/-! ### Questions -/

variable {less : α → α → Except ε Bool}

theorem precedes_eq_error_iff (x y : α) (e : ε) :
    precedes less x y = .error e ↔ ∃ p ∈ questions less x y, less p.1 p.2 = .error e := by
  unfold precedes questions
  cases hxy : less x y with
  | error f => simp [hxy]
  | ok isLess =>
      cases isLess with
      | true => simp [hxy]
      | false => cases hyx : less y x <;> simp [hxy, hyx]

/-- A sort fails as one of its questions does. -/
theorem sort_eq_error_iff (items : List α) (e : ε) :
    s.sort less items = .error e ↔ ∃ p ∈ s.asked less items, less p.1 p.2 = .error e := by
  have hsort : s.sort less items = .error e ↔
      ((s.inquiry items.length).run fun i j => precedes less (items.get i) (items.get j)) =
        .error e := by
    rw [sort]
    split <;> simp_all
  rw [hsort, Inquiry.run_eq_error_iff, asked]
  simp only [List.mem_flatMap, precedes_eq_error_iff]
  constructor
  · rintro ⟨pair, hpair, p, hp, hf⟩
    exact ⟨p, ⟨pair, hpair, hp⟩, hf⟩
  · rintro ⟨p, ⟨pair, hpair, hp⟩, hf⟩
    exact ⟨pair, hpair, p, hp, hf⟩

/-- A sort asks about its items only. -/
theorem mem_of_mem_asked {items : List α} {p : α × α} (h : p ∈ s.asked less items) :
    p.1 ∈ items ∧ p.2 ∈ items := by
  have hquestions : ∀ x y, p ∈ questions less x y → p = (x, y) ∨ p = (y, x) := by
    intro x y hp
    unfold questions at hp
    split at hp <;> simp_all
  obtain ⟨⟨i, j⟩, -, hp⟩ := List.mem_flatMap.mp h
  have hi : items.get i ∈ items := List.get_mem items i
  have hj : items.get j ∈ items := List.get_mem items j
  rcases hquestions _ _ hp with rfl | rfl
  · exact ⟨hi, hj⟩
  · exact ⟨hj, hi⟩

end Sorter

/-- All questions about two declarations with the property are answered. -/
def Less.AnswersOn (less : Less) (P : Declaration → Prop) : Prop :=
  ∀ a b, P a → P b → ∃ isLess, less a b = .ok isLess

/-- The orders of the plan answer all questions about declarations with the
property. -/
structure Plan.AnswersOn (plan : Plan) (P : Declaration → Prop) : Prop where
  forest : ∀ less, plan.sortForest = some less → less.AnswersOn P
  children : ∀ less, plan.sortChildren = some less → less.AnswersOn P

theorem Declaration.declaration_outline (d : Declaration) : d.outline.declaration = d := by
  rw [outline_eq, Outline.declaration]

namespace Compile

variable {α : Type} {plan : Plan} {sorter : Sorter}

/-- The declarations in the order to which they are sorted. -/
def inOrder (sorter : Sorter) (order : Option Less) (nodes : List Declaration) :
    Except Fault (List Declaration) :=
  match order with
  | none => .ok nodes
  | some less => Declaration.sort less nodes sorter

/-- What belongs to declarations is put in the order of the declarations. -/
theorem arrange_map (sorter : Sorter) (order : Option Less) (f : Declaration → α) (nodes : List Declaration) :
    arrange sorter order (nodes.map fun d => (d, f d)) =
      (inOrder sorter order nodes).map (List.map fun d => (d, f d)) := by
  cases order with
  | none => rfl
  | some less => exact Sorter.sort_map (fun a b => less a.1 b.1) (fun d => (d, f d)) nodes

theorem trees_outline (plan : Plan) (ancestors nodes : List Declaration) :
    trees plan ancestors (nodes.map Declaration.outline) =
      nodes.map fun d => (d, tree plan ancestors d.outline) := by
  induction nodes with
  | nil => rfl
  | cons d rest ih => rw [List.map_cons, trees, ih, Declaration.declaration_outline, List.map_cons]

theorem inOrder_perm {order : Option Less} {nodes sorted : List Declaration}
    (h : inOrder sorter order nodes = .ok sorted) : sorted.Perm nodes := by
  cases order with
  | none =>
      obtain rfl := Except.ok.inj h
      exact .refl nodes
  | some less => exact Sorter.sort_perm h

theorem exists_inOrder {order : Option Less} {P : Declaration → Prop}
    (horder : ∀ less, order = some less → less.AnswersOn P) {nodes : List Declaration}
    (hnodes : ∀ d ∈ nodes, P d) : ∃ sorted, inOrder sorter order nodes = .ok sorted := by
  cases order with
  | none => exact ⟨nodes, rfl⟩
  | some less =>
      cases hsort : inOrder sorter (some less) nodes with
      | ok sorted => exact ⟨sorted, rfl⟩
      | error f =>
          obtain ⟨⟨a, b⟩, hasked, hf⟩ := (Sorter.sort_eq_error_iff nodes f).mp hsort
          obtain ⟨ha, hb⟩ := Sorter.mem_of_mem_asked hasked
          obtain ⟨isLess, hanswer⟩ := horder less rfl a b (hnodes a ha) (hnodes b hb)
          rw [hf] at hanswer
          cases hanswer

/-- The result of running over declarations that were put in order. -/
def sortedResult (sorter : Sorter) (order : Option Less)
    (result : Declaration → Except Fault Compiled) (nodes : List Declaration) :
    Except Fault (List Compiled) :=
  match inOrder sorter order nodes with
  | .error f => .error f
  | .ok sorted => gather (sorted.map fun d => (d, result d))

theorem sortedResult_of_inOrder {order : Option Less} {nodes sorted : List Declaration}
    (h : inOrder sorter order nodes = .ok sorted) (result : Declaration → Except Fault Compiled) :
    sortedResult sorter order result nodes = gather (sorted.map fun d => (d, result d)) := by
  rw [sortedResult, h]

theorem tree_group {ancestors : List Declaration} {d : Declaration}
    (hvalidate : d.validate ancestors = .ok ()) (hchildren : d.hasChildren = true) :
    tree plan ancestors d.outline =
      (sortedResult plan.sorter plan.sortChildren (fun child => tree plan (ancestors ++ [d]) child.outline)
        d.children).map (group ancestors d) := by
  rw [Declaration.outline_eq, tree, trees_outline]
  simp only [hvalidate, hchildren, if_true, arrange_map, sortedResult]
  cases inOrder plan.sorter plan.sortChildren d.children with
  | error f => rfl
  | ok sorted =>
      simp only [Except.map]
      cases gather (sorted.map fun child => (child, tree plan (ancestors ++ [d]) child.outline)) <;>
        rfl

/-- Compiling roots that were put in order. -/
theorem roots_eq (plan : Plan) (nodes : List Declaration) :
    roots plan nodes =
      (sortedResult plan.sorter plan.sortForest (fun d => tree plan [] d.outline) nodes).map
        fun compiled =>
          { trees := compiled.map (·.tree), hooks := compiled.flatMap (·.hooks) } := by
  rw [roots, trees_outline, arrange_map, sortedResult]
  cases inOrder plan.sorter plan.sortForest nodes with
  | error f => rfl
  | ok sorted =>
      simp only [Except.map]
      cases gather (sorted.map fun d => (d, tree plan [] d.outline)) <;> rfl

end Compile

end CaptureForest
