import CaptureForest.Proofs.Questions

/-!
# Stable sorting

Two items are compared by asking whether the first is less than the second and, if
it is not, whether the second is less than the first.  If the questions are answered
by a strict weak order, then this comparison is a total preorder, which is all that
a sort relies on.

The invariant of the sort is about the items taken so far: no item is less than an
earlier one, and items that tie stand in the order in which they were taken.  Each
item that is taken next goes behind all those that it is not less than, and before
all others.  A list in which no item is less than an earlier one is determined by the
order of the items that tie, so every stable sort gives the same list.
-/

namespace CaptureForest

namespace StableSort

variable {α ε : Type}

/-- The order of two items, by at most two questions. -/
def comparison (less : α → α → Except ε Bool) (x y : α) : Except ε Ordering :=
  match less x y with
  | .error e => .error e
  | .ok true => .ok .lt
  | .ok false =>
    match less y x with
    | .error e => .error e
    | .ok true => .ok .gt
    | .ok false => .ok .eq

/-- A three-way comparison that is a total preorder on the items with the property. -/
structure IsConsistentOn (compare : α → α → Except ε Ordering) (P : α → Prop) : Prop where
  swap : ∀ x y, P x → P y → ∃ order, compare x y = .ok order ∧ compare y x = .ok order.swap
  trans : ∀ x y z, P x → P y → P z →
    compare x y ≠ .ok .gt → compare y z ≠ .ok .gt → compare x z ≠ .ok .gt

/-- Neither of two items is less than the other. -/
def ties (less : α → α → Except ε Bool) (x y : α) : Bool :=
  match less x y, less y x with
  | .ok false, .ok false => true
  | _, _ => false

/-- The same items, none of them less than an earlier one, and those that tie in
their old order. -/
structure IsStableSort (less : α → α → Except ε Bool) (items sorted : List α) : Prop where
  perm : sorted.Perm items
  ordered : sorted.Pairwise fun x y => less y x = .ok false
  stable : ∀ x ∈ items, sorted.filter (ties less x) = items.filter (ties less x)

variable {less : α → α → Except ε Bool} {x y z : α}

theorem ties_iff : ties less x y = true ↔ less x y = .ok false ∧ less y x = .ok false := by
  unfold ties
  split
  · rename_i hxy hyx
    simp [hxy, hyx]
  · rename_i hnot
    simpa using hnot

/-! ### Comparing -/

/-- Both questions about two items are answered, and not both by yes. -/
inductive IsDecided (less : α → α → Except ε Bool) (x y : α) : Prop
  | lt (hxy : less x y = .ok true) (hyx : less y x = .ok false)
  | gt (hxy : less x y = .ok false) (hyx : less y x = .ok true)
  | tie (hxy : less x y = .ok false) (hyx : less y x = .ok false)

/-- A sort asks for the comparison and looks only whether it says less. -/
theorem precedes_eq_comparison (less : α → α → Except ε Bool) (x y : α) :
    Sorter.precedes less x y = (comparison less x y).map (· == .lt) := by
  unfold Sorter.precedes comparison
  cases less x y with
  | error e => rfl
  | ok isLess =>
      cases isLess with
      | true => rfl
      | false =>
          cases less y x with
          | error e => rfl
          | ok isGreater => cases isGreater <;> rfl

theorem isDecided_iff_swap : IsDecided less x y ↔
    ∃ order, comparison less x y = .ok order ∧ comparison less y x = .ok order.swap := by
  unfold comparison
  constructor
  · intro h
    cases h with
    | lt hxy hyx => simp [hxy, hyx]
    | gt hxy hyx => simp [hxy, hyx]
    | tie hxy hyx => simp [hxy, hyx]
  · rintro ⟨order, hxy, hyx⟩
    cases hless : less x y with
    | error e => simp [hless] at hxy
    | ok isLess =>
        cases hgreater : less y x with
        | error e => simp [hgreater] at hyx
        | ok isGreater =>
            cases isLess with
            | false =>
                cases isGreater with
                | false => exact .tie hless hgreater
                | true => exact .gt hless hgreater
            | true =>
                cases isGreater with
                | false => exact .lt hless hgreater
                | true =>
                    simp only [hless, Except.ok.injEq] at hxy
                    simp [hgreater, ← hxy] at hyx

theorem IsDecided.comparison_ne_gt_iff (h : IsDecided less x y) :
    comparison less x y ≠ .ok .gt ↔ less y x = .ok false := by
  unfold comparison
  cases h with
  | lt hxy hyx => simp [hxy, hyx]
  | gt hxy hyx => simp [hxy, hyx]
  | tie hxy hyx => simp [hxy, hyx]

theorem IsDecided.precedes (h : IsDecided less x y) :
    Sorter.precedes less x y = less x y := by
  rw [precedes_eq_comparison, comparison]
  cases h with
  | lt hxy hyx => simp [hxy, Except.map]
  | gt hxy hyx => simp [hxy, hyx, Except.map]
  | tie hxy hyx => simp [hxy, hyx, Except.map]

namespace IsConsistentOn

variable {P : α → Prop} (h : IsConsistentOn (comparison less) P)

include h

theorem isDecided (hx : P x) (hy : P y) : IsDecided less x y :=
  isDecided_iff_swap.mpr (h.swap x y hx hy)

theorem mono {Q : α → Prop} (hQ : ∀ x, Q x → P x) : IsConsistentOn (comparison less) Q where
  swap := fun x y hx hy => h.swap x y (hQ x hx) (hQ y hy)
  trans := fun x y z hx hy hz => h.trans x y z (hQ x hx) (hQ y hy) (hQ z hz)

theorem not_less_trans (hx : P x) (hy : P y) (hz : P z) (hyx : less y x = .ok false)
    (hzy : less z y = .ok false) : less z x = .ok false := by
  rw [← (h.isDecided hx hy).comparison_ne_gt_iff] at hyx
  rw [← (h.isDecided hy hz).comparison_ne_gt_iff] at hzy
  rw [← (h.isDecided hx hz).comparison_ne_gt_iff]
  exact h.trans x y z hx hy hz hyx hzy

theorem ties_self (hx : P x) : ties less x x = true := by
  cases h.isDecided hx hx with
  | lt hxy hyx => simp [hxy] at hyx
  | gt hxy hyx => simp [hxy] at hyx
  | tie hxy hyx => exact ties_iff.mpr ⟨hxy, hyx⟩

/-- Items that tie with a third one tie. -/
theorem not_less_of_ties (hx : P x) (hy : P y) (hz : P z) (hzx : ties less z x = true)
    (hzy : ties less z y = true) : less x y = .ok false :=
  h.not_less_trans hy hz hx (ties_iff.mp hzy).1 (ties_iff.mp hzx).2

end IsConsistentOn

/-! ### Taking items in -/

section Taking

variable {taken before after items last : List α} {isFalling : Bool}

/-- What a sort makes of the items that it has taken so far. -/
structure IsSortOf (less : α → α → Except ε Bool) (taken sorted : List α) : Prop where
  perm : sorted.Perm taken
  ordered : sorted.Pairwise fun x y => less y x = .ok false
  stable : ∀ a, sorted.filter (ties less a) = taken.filter (ties less a)

variable (h : IsConsistentOn (comparison less) fun _ => True)

include h

theorem exists_answer (x y : α) :
    ∃ isLess, less x y = .ok isLess ∧
      (Inquiry.whether x y).run (Sorter.precedes less) = .ok isLess := by
  have hdecided : IsDecided less x y := h.isDecided trivial trivial
  rw [Inquiry.run_whether, hdecided.precedes]
  cases hdecided with
  | lt hxy _ => exact ⟨true, hxy, hxy⟩
  | gt hxy _ => exact ⟨false, hxy, hxy⟩
  | tie hxy _ => exact ⟨false, hxy, hxy⟩

/-- An item that is less than a second one is less than all that is not less than
the second. -/
theorem less_of_less (hxy : less x y = .ok true) (hzy : less z y = .ok false) :
    less x z = .ok true := by
  obtain ⟨isLess, hxz, -⟩ := exists_answer h x z
  cases isLess with
  | true => exact hxz
  | false =>
      have hnot := h.not_less_trans trivial trivial trivial hzy hxz
      rw [hxy] at hnot
      cases hnot

/-- The next item goes behind those that it is not less than, and before all others. -/
theorem IsSortOf.insert (hsort : IsSortOf less taken (before ++ after))
    (hbefore : ∀ y ∈ before, less x y = .ok false) (hafter : ∀ y ∈ after, less x y = .ok true) :
    IsSortOf less (taken ++ [x]) (before ++ x :: after) := by
  obtain ⟨hbeforeOrdered, hafterOrdered, hacross⟩ := List.pairwise_append.mp hsort.ordered
  constructor
  · apply List.perm_middle.trans
    exact (hsort.perm.cons x).trans (List.perm_append_singleton x taken).symm
  · apply List.pairwise_append.mpr
    refine ⟨hbeforeOrdered, List.Pairwise.cons ?_ hafterOrdered, ?_⟩
    · intro y hy
      cases h.isDecided (x := x) (y := y) trivial trivial with
      | lt _ hyx => exact hyx
      | gt hxy _ => simp [hafter y hy] at hxy
      | tie hxy _ => simp [hafter y hy] at hxy
    · intro y hy z hz
      rcases List.mem_cons.mp hz with rfl | hz
      · exact hbefore y hy
      · exact hacross y hy z hz
  · intro a
    have hold := hsort.stable a
    rw [List.filter_append] at hold
    rw [List.filter_append, List.filter_append, ← hold]
    cases hax : ties less a x with
    | false => simp [hax]
    | true =>
        -- none of the items behind the new one ties with what ties with it
        have hnone : after.filter (ties less a) = [] := by
          rw [List.filter_eq_nil_iff]
          intro y hy hay
          have hxy := h.not_less_of_ties trivial trivial trivial hax hay
          simp [hafter y hy] at hxy
        simp [hax, hnone]

/-- Halving finds the place of an item in a list that is in order. -/
theorem exists_insert (x : α) {sorted : List α}
    (hordered : sorted.Pairwise fun y z => less z y = .ok false) :
    ∃ before after, sorted = before ++ after ∧
      (StableSort.insert x sorted).run (Sorter.precedes less) = .ok (before ++ x :: after) ∧
      (∀ y ∈ before, less x y = .ok false) ∧ ∀ y ∈ after, less x y = .ok true := by
  induction hlength : sorted.length using Nat.strongRecOn generalizing sorted with
  | ind n ih =>
      by_cases hne : sorted = []
      · subst hne
        exact ⟨[], [], rfl, by rw [insert_nil]; rfl, by simp, by simp⟩
      · obtain ⟨low, middle, high, rfl, heq⟩ := insert_eq x hne
        rw [List.length_append, List.length_cons] at hlength
        obtain ⟨hlow, hhigh, hacross⟩ := List.pairwise_append.mp hordered
        obtain ⟨isLess, hless, hanswer⟩ := exists_answer h x middle
        rw [heq, Inquiry.run_bind_of_ok hanswer]
        cases isLess with
        | true =>
            obtain ⟨before, after, rfl, hrun, hbefore, hafter⟩ := ih _ (by omega) hlow rfl
            refine ⟨before, after ++ middle :: high, by simp, ?_, hbefore, ?_⟩
            · rw [if_pos rfl, Inquiry.run_bind_of_ok hrun, List.append_assoc, List.cons_append]
              rfl
            · intro y hy
              rcases List.mem_append.mp hy with hy | hy
              · exact hafter y hy
              · rcases List.mem_cons.mp hy with rfl | hy
                · exact hless
                · exact less_of_less h hless (List.rel_of_pairwise_cons hhigh hy)
        | false =>
            obtain ⟨before, after, rfl, hrun, hbefore, hafter⟩ := ih _ (by omega) hhigh.of_cons rfl
            refine ⟨low ++ middle :: before, after, by simp, ?_, ?_, hafter⟩
            · rw [if_neg Bool.false_ne_true, Inquiry.run_bind_of_ok hrun, List.append_assoc,
                List.cons_append]
              rfl
            · intro y hy
              rcases List.mem_append.mp hy with hy | hy
              · have hmiddle := hacross y hy middle List.mem_cons_self
                exact h.not_less_trans trivial trivial trivial hmiddle hless
              · rcases List.mem_cons.mp hy with rfl | hy
                · exact hless
                · exact hbefore y hy

theorem exists_insertAll {sorted : List α} (hsort : IsSortOf less taken sorted) (items : List α) :
    ∃ result, (insertAll sorted items).run (Sorter.precedes less) = .ok result ∧
      IsSortOf less (taken ++ items) result := by
  induction items generalizing taken sorted with
  | nil => exact ⟨sorted, rfl, by simpa using hsort⟩
  | cons x others ih =>
      obtain ⟨before, after, rfl, hrun, hbefore, hafter⟩ := exists_insert h x hsort.ordered
      obtain ⟨result, hall, hresult⟩ := ih (hsort.insert h hbefore hafter)
      refine ⟨result, ?_, by simpa using hresult⟩
      rw [insertAll, Inquiry.run_bind_of_ok hrun]
      exact hall

/-! ### The run at the front -/

/-- The items of a run in order, if they were taken down from the last. -/
def ofRun (isFalling : Bool) (down : List α) : List α := if isFalling then down else down.reverse

omit h in
theorem ofRun_singleton (isFalling : Bool) (x : α) : ofRun isFalling [x] = [x] := by
  cases isFalling <;> rfl

/-- An item that continues a run goes to its front if the run is falling, and to its
end if it is not. -/
theorem IsSortOf.extend {last : α} {down : List α}
    (hsort : IsSortOf less taken (ofRun isFalling (last :: down)))
    (hx : less x last = .ok isFalling) :
    IsSortOf less (taken ++ [x]) (ofRun isFalling (x :: last :: down)) := by
  cases isFalling with
  | true =>
      have hafter : ∀ y ∈ last :: down, less x y = .ok true := by
        intro y hy
        rcases List.mem_cons.mp hy with rfl | hy
        · exact hx
        · exact less_of_less h hx (List.rel_of_pairwise_cons hsort.ordered hy)
      have hfront : IsSortOf less taken ([] ++ last :: down) := hsort
      exact hfront.insert h (by simp) hafter
  | false =>
      have hordered := List.pairwise_reverse.mp hsort.ordered
      have hbefore : ∀ y ∈ (last :: down).reverse, less x y = .ok false := by
        intro y hy
        rcases List.mem_cons.mp (List.mem_reverse.mp hy) with rfl | hy
        · exact hx
        · have hlast := List.rel_of_pairwise_cons hordered hy
          exact h.not_less_trans trivial trivial trivial hlast hx
      have hend : IsSortOf less taken ((last :: down).reverse ++ []) := by
        rw [List.append_nil]
        exact hsort
      have hinsert := hend.insert h hbefore (by simp)
      rwa [← List.reverse_cons] at hinsert

theorem exists_takeRun {last : α} {down : List α}
    (hsort : IsSortOf less taken (ofRun isFalling (last :: down))) (items : List α) :
    ∃ found run rest, (takeRun isFalling last down items).run (Sorter.precedes less) =
        .ok (found, rest) ∧
      items = run ++ rest ∧ IsSortOf less (taken ++ run) (ofRun isFalling found) := by
  induction items generalizing taken last down with
  | nil => exact ⟨last :: down, [], [], rfl, rfl, by simpa using hsort⟩
  | cons x others ih =>
      obtain ⟨isLess, hless, hanswer⟩ := exists_answer h x last
      rw [takeRun, Inquiry.run_bind_of_ok hanswer]
      by_cases hcontinues : isLess = isFalling
      · subst hcontinues
        obtain ⟨found, run, rest, hrun, rfl, hfound⟩ := ih (hsort.extend h hless)
        refine ⟨found, x :: run, rest, ?_, rfl, by simpa using hfound⟩
        rw [if_pos rfl]
        exact hrun
      · refine ⟨last :: down, [], x :: others, ?_, rfl, by simpa using hsort⟩
        rw [if_neg hcontinues]
        rfl

omit h in
theorem isSortOf_singleton (x : α) : IsSortOf less [x] [x] :=
  ⟨.refl [x], List.pairwise_singleton _ x, fun _ => rfl⟩

theorem exists_firstRun (items : List α) :
    ∃ sorted run rest, (firstRun items).run (Sorter.precedes less) = .ok (sorted, rest) ∧
      items = run ++ rest ∧ IsSortOf less run sorted := by
  match items with
  | [] => exact ⟨[], [], [], rfl, rfl, .refl [], .nil, fun _ => rfl⟩
  | [x] => exact ⟨[x], [x], [], rfl, rfl, isSortOf_singleton x⟩
  | x :: y :: others =>
      obtain ⟨isLess, hless, hanswer⟩ := exists_answer h y x
      have hfirst : IsSortOf less [x] (ofRun isLess [x]) := by
        rw [ofRun_singleton]
        exact isSortOf_singleton x
      obtain ⟨found, run, rest, hrun, rfl, hfound⟩ :=
        exists_takeRun h (hfirst.extend h hless) others
      refine ⟨ofRun isLess found, x :: y :: run, rest, ?_, rfl, hfound⟩
      rw [firstRun, Inquiry.run_bind_of_ok hanswer, Inquiry.run_bind_of_ok hrun]
      rfl

theorem exists_inquiry (items : List α) :
    ∃ sorted, (inquiry items).run (Sorter.precedes less) = .ok sorted ∧
      IsSortOf less items sorted := by
  obtain ⟨front, run, rest, hfirst, rfl, hfront⟩ := exists_firstRun h items
  obtain ⟨sorted, hall, hsorted⟩ := exists_insertAll h hfront rest
  refine ⟨sorted, ?_, hsorted⟩
  rw [inquiry, Inquiry.run_bind_of_ok hfirst]
  exact hall

end Taking

/-! ### Sorting -/

section Sorting

variable {items sorted other : List α}

/-- What a sort makes of the places of items, it makes of the items. -/
theorem IsSortOf.isStableSort {places : List (Fin items.length)}
    (h : IsSortOf (fun i j => less (items.get i) (items.get j)) (List.finRange items.length) places) :
    IsStableSort less items (places.map items.get) := by
  have hall : (List.finRange items.length).map items.get = items := List.map_get_finRange items
  constructor
  · have hperm := h.perm.map items.get
    rwa [hall] at hperm
  · exact List.pairwise_map.mpr h.ordered
  · intro x hx
    obtain ⟨i, rfl⟩ := List.mem_iff_get.mp hx
    have hties : ∀ places : List (Fin items.length),
        (places.map items.get).filter (ties less (items.get i)) =
          (places.filter (ties (fun i j => less (items.get i) (items.get j)) i)).map items.get :=
      fun places => List.filter_map
    have hplaces := hties (List.finRange items.length)
    rw [hall] at hplaces
    rw [hties, h.stable, hplaces]

/-- Sorting by a consistent comparison succeeds and is stable. -/
theorem exists_sort (h : IsConsistentOn (comparison less) (· ∈ items)) :
    ∃ sorted, StableSort.sorter.sort less items = .ok sorted ∧ IsStableSort less items sorted := by
  have hmem : ∀ i : Fin items.length, items.get i ∈ items := List.get_mem items
  have hplaces : IsConsistentOn (comparison fun i j => less (items.get i) (items.get j))
      fun _ => True := by
    constructor
    · exact fun i j _ _ => h.swap _ _ (hmem i) (hmem j)
    · exact fun i j k _ _ _ => h.trans _ _ _ (hmem i) (hmem j) (hmem k)
  obtain ⟨places, hrun, hsorted⟩ := exists_inquiry hplaces (List.finRange items.length)
  refine ⟨places.map items.get, ?_, hsorted.isStableSort⟩
  have hinquiry : (StableSort.sorter.inquiry items.length).run
      (fun i j => Sorter.precedes less (items.get i) (items.get j)) = .ok places := hrun
  rw [Sorter.sort, hinquiry]

/-- The order of the items that tie determines an ordered list. -/
theorem eq_of_ordered (hself : ∀ x ∈ sorted, ties less x x = true) (hperm : sorted.Perm other)
    (hsorted : sorted.Pairwise fun x y => less y x = .ok false)
    (hother : other.Pairwise fun x y => less y x = .ok false)
    (hties : ∀ x ∈ sorted, sorted.filter (ties less x) = other.filter (ties less x)) :
    sorted = other := by
  induction sorted generalizing other with
  | nil => exact (List.nil_perm.mp hperm).symm
  | cons x rest ih =>
      cases other with
      | nil => exact absurd hperm.length_eq (by simp)
      | cons y others =>
          have hxx : ties less x x = true := hself x List.mem_cons_self
          have hfirst : x = y := by
            -- each of the first items is in the other list, so neither is less
            have hxy : ties less x y = true := by
              have hx : x ∈ y :: others := hperm.mem_iff.mp List.mem_cons_self
              have hy : y ∈ x :: rest := hperm.mem_iff.mpr List.mem_cons_self
              rcases List.mem_cons.mp hx with rfl | hx
              · exact hxx
              · rcases List.mem_cons.mp hy with rfl | hy
                · exact hxx
                · exact ties_iff.mpr
                    ⟨List.rel_of_pairwise_cons hother hx, List.rel_of_pairwise_cons hsorted hy⟩
            have hfilter := hties x List.mem_cons_self
            rw [List.filter_cons_of_pos hxx, List.filter_cons_of_pos hxy] at hfilter
            exact (List.cons.inj hfilter).1
          subst hfirst
          have hrest : rest = others := by
            apply ih
            · exact fun z hz => hself z (List.mem_cons_of_mem x hz)
            · exact hperm.cons_inv
            · exact hsorted.of_cons
            · exact hother.of_cons
            · intro z hz
              have hfilter := hties z (List.mem_cons_of_mem x hz)
              rw [List.filter_cons, List.filter_cons] at hfilter
              cases hzx : ties less z x with
              | false => simpa [hzx] using hfilter
              | true => simpa [hzx] using hfilter
          rw [hrest]

theorem IsStableSort.unique (h : IsConsistentOn (comparison less) (· ∈ items))
    (hsorted : IsStableSort less items sorted) (hother : IsStableSort less items other) :
    sorted = other := by
  have hmem : ∀ x ∈ sorted, x ∈ items := fun x hx => hsorted.perm.mem_iff.mp hx
  apply @eq_of_ordered _ _ less
  · exact fun x hx => h.ties_self (hmem x hx)
  · exact hsorted.perm.trans hother.perm.symm
  · exact hsorted.ordered
  · exact hother.ordered
  · exact fun x hx => (hsorted.stable x (hmem x hx)).trans (hother.stable x (hmem x hx)).symm

/-- What is sorted stays as it is when it is sorted again. -/
theorem IsStableSort.sort_eq (h : IsConsistentOn (comparison less) (· ∈ items))
    (hsorted : IsStableSort less items sorted) :
    StableSort.sorter.sort less sorted = .ok sorted := by
  have hagain : IsConsistentOn (comparison less) (· ∈ sorted) :=
    h.mono fun x hx => hsorted.perm.mem_iff.mp hx
  obtain ⟨twice, htwice, hstable⟩ := exists_sort hagain
  have hself : IsStableSort less sorted sorted := ⟨.refl sorted, hsorted.ordered, fun _ _ => rfl⟩
  rw [htwice, hstable.unique hagain hself]

end Sorting

end StableSort

/-! ### Sorting declarations -/

namespace Less.IsStrictWeakOn

variable {less : Less} {P : Declaration → Prop} (h : less.IsStrictWeakOn P)

include h

theorem mono {Q : Declaration → Prop} (hQ : ∀ a, Q a → P a) : less.IsStrictWeakOn Q where
  answers := fun a b ha hb => h.answers a b (hQ a ha) (hQ b hb)
  irrefl := fun a ha => h.irrefl a (hQ a ha)
  trans := fun a b c ha hb hc => h.trans a b c (hQ a ha) (hQ b hb) (hQ c hc)
  incomparable := fun a b c ha hb hc => h.incomparable a b c (hQ a ha) (hQ b hb) (hQ c hc)

variable {a b c : Declaration}

theorem isDecided (ha : P a) (hb : P b) : StableSort.IsDecided less a b := by
  obtain ⟨isLess, hab⟩ := h.answers a b ha hb
  obtain ⟨isGreater, hba⟩ := h.answers b a hb ha
  cases isLess with
  | false =>
      cases isGreater with
      | false => exact .tie hab hba
      | true => exact .gt hab hba
  | true =>
      cases isGreater with
      | false => exact .lt hab hba
      | true =>
          have haa := h.trans a b a ha hb ha hab hba
          rw [h.irrefl a ha] at haa
          cases haa

/-- If the third is less than the first, then it is less than the second, or the
second is less than the first. -/
theorem not_less_trans (ha : P a) (hb : P b) (hc : P c) (hba : less b a = .ok false)
    (hcb : less c b = .ok false) : less c a = .ok false := by
  cases h.isDecided hc ha with
  | gt hca _ => exact hca
  | tie hca _ => exact hca
  | lt hca _ =>
      cases h.isDecided hb ha with
      | lt hba' _ =>
          rw [hba] at hba'
          cases hba'
      | gt _ hab =>
          have hless := h.trans c a b hc ha hb hca hab
          rw [hcb] at hless
          cases hless
      | tie _ hab =>
          cases h.isDecided hc hb with
          | lt hcb' _ =>
              rw [hcb] at hcb'
              cases hcb'
          | gt _ hbc =>
              have hless := h.trans b c a hb hc ha hbc hca
              rw [hba] at hless
              cases hless
          | tie _ hbc =>
              have hties := h.incomparable a b c ha hb hc hab hba hbc hcb
              rw [hca] at hties
              cases hties.2

/-- A strict weak order is compared consistently. -/
theorem isConsistentOn : StableSort.IsConsistentOn (StableSort.comparison less) P := by
  constructor
  · intro a b ha hb
    exact StableSort.isDecided_iff_swap.mp (h.isDecided ha hb)
  · intro a b c ha hb hc
    rw [(h.isDecided ha hb).comparison_ne_gt_iff, (h.isDecided hb hc).comparison_ne_gt_iff,
      (h.isDecided ha hc).comparison_ne_gt_iff]
    exact h.not_less_trans ha hb hc

end Less.IsStrictWeakOn

namespace Declaration

/-- Declarations are sorted stably by a strict weak order: asking both ways compares
them consistently, the sort succeeds, what it gives is the only stable sort of them,
and sorting that again changes nothing. -/
theorem sort_isStableSort {less : Less} {nodes : List Declaration}
    (h : less.IsStrictWeakOn (· ∈ nodes)) :
    StableSort.IsConsistentOn (StableSort.comparison less) (· ∈ nodes) ∧
      ∃ sorted, sort less nodes = .ok sorted ∧ StableSort.IsStableSort less nodes sorted ∧
        (∀ other, StableSort.IsStableSort less nodes other → other = sorted) ∧
        sort less sorted = .ok sorted := by
  have hconsistent := h.isConsistentOn
  obtain ⟨sorted, hsort, hstable⟩ := StableSort.exists_sort hconsistent
  refine ⟨hconsistent, sorted, hsort, hstable, ?_, ?_⟩
  · intro other hother
    exact hother.unique hconsistent hstable
  · exact hstable.sort_eq hconsistent

/-- Four declarations by their keys, two of which each of two keys. -/
theorem sort_isStableSort_of_keys :
    let node (name keys : String) : Declaration := ⟨.str name, [(.str "keys", .str keys)]⟩
    let less : Less := SiblingOrder.plainKeys.less
    let nodes := [node "A" "b", node "B" "a", node "C" "b", node "D" "a"]
    let sorted := [node "B" "a", node "D" "a", node "A" "b", node "C" "b"]
    less.IsStrictWeakOn (· ∈ nodes) ∧ sort less nodes = .ok sorted ∧
      StableSort.IsStableSort less nodes sorted ∧ sort less sorted = .ok sorted := by
  intro node less nodes sorted
  have hpass : ∀ d ∈ nodes, d.Passes := by decide +kernel
  have horder : less.IsStrictWeakOn (· ∈ nodes) := Compile.plainKeys_isStrictWeakOn.mono hpass
  obtain ⟨-, result, hresult, hstable, -, hagain⟩ := sort_isStableSort horder
  have hsorted : sort less nodes = .ok sorted := by cbv
  obtain rfl : sorted = result := Except.ok.inj (hsorted.symm.trans hresult)
  exact ⟨horder, hsorted, hstable, hagain⟩

end Declaration

end CaptureForest
