import Mathlib.Data.List.Forall2

/-!
# Runs that stop at the first failure

Checking and compiling run over lists of items and stop at the first item that
fails.  Such a run either gives a result for every item, in order, or the
failure of one item before which all others succeed.
-/

namespace CaptureForest

variable {α β ε : Type}

/-- The failure of the first item on which `f` fails. -/
def FailsFirst (f : α → Except ε β) (items : List α) (e : ε) : Prop :=
  ∃ before item after,
    items = before ++ item :: after ∧
      (∀ other ∈ before, ∃ b, f other = .ok b) ∧ f item = .error e

theorem failsFirst_nil (f : α → Except ε β) (e : ε) : ¬ FailsFirst f [] e := by
  rintro ⟨before, item, after, hitems, -, -⟩
  cases before <;> cases hitems

theorem failsFirst_cons_of_error
    {f : α → Except ε β} {x : α} {e : ε} (hx : f x = .error e)
    (rest : List α) (e' : ε) :
    FailsFirst f (x :: rest) e' ↔ e = e' := by
  constructor
  · rintro ⟨before, item, after, hitems, hbefore, hitem⟩
    cases before with
    | nil =>
        simp only [List.nil_append, List.cons.injEq] at hitems
        rw [hitems.1, hitem] at hx
        exact (Except.error.inj hx).symm
    | cons first before =>
        simp only [List.cons_append, List.cons.injEq] at hitems
        obtain ⟨b, hb⟩ := hbefore first List.mem_cons_self
        rw [← hitems.1, hx] at hb
        cases hb
  · rintro rfl
    exact ⟨[], x, rest, rfl, by simp, hx⟩

theorem failsFirst_cons_of_ok
    {f : α → Except ε β} {x : α} {b : β} (hx : f x = .ok b)
    (rest : List α) (e : ε) :
    FailsFirst f (x :: rest) e ↔ FailsFirst f rest e := by
  constructor
  · rintro ⟨before, item, after, hitems, hbefore, hitem⟩
    cases before with
    | nil =>
        simp only [List.nil_append, List.cons.injEq] at hitems
        rw [hitems.1, hitem] at hx
        cases hx
    | cons first before =>
        simp only [List.cons_append, List.cons.injEq] at hitems
        exact ⟨before, item, after, hitems.2,
          fun other hother => hbefore other (List.mem_cons_of_mem first hother),
          hitem⟩
  · rintro ⟨before, item, after, rfl, hbefore, hitem⟩
    refine ⟨x :: before, item, after, rfl, ?_, hitem⟩
    intro other hother
    rcases List.mem_cons.mp hother with rfl | hother
    · exact ⟨b, hx⟩
    · exact hbefore other hother

/-- A run succeeds with exactly one result for every item. -/
theorem mapM_eq_ok_iff (f : α → Except ε β) (items : List α) (results : List β) :
    items.mapM f = .ok results ↔
      List.Forall₂ (fun item b => f item = .ok b) items results := by
  induction items generalizing results with
  | nil =>
      rw [List.forall₂_nil_left_iff]
      simp only [List.mapM_nil, pure, Except.pure, Except.ok.injEq]
      exact eq_comm
  | cons x rest ih =>
      rw [List.mapM_cons, List.forall₂_cons_left_iff]
      cases hx : f x with
      | error e => simp [bind, Except.bind]
      | ok b =>
          cases hrest : rest.mapM f with
          | error e =>
              simp only [bind, Except.bind, reduceCtorEq, false_iff]
              rintro ⟨c, tail, -, htail, -⟩
              rw [← ih, hrest] at htail
              cases htail
          | ok tail =>
              simp only [bind, Except.bind, pure, Except.pure, Except.ok.injEq]
              constructor
              · rintro rfl
                exact ⟨b, tail, rfl, (ih tail).mp hrest, rfl⟩
              · rintro ⟨c, tail', hc, htail, rfl⟩
                rw [← ih, hrest] at htail
                rw [hc, Except.ok.inj htail]

/-- A run fails with the failure of the first item that fails. -/
theorem mapM_eq_error_iff (f : α → Except ε β) (items : List α) (e : ε) :
    items.mapM f = .error e ↔ FailsFirst f items e := by
  induction items with
  | nil =>
      simp only [List.mapM_nil, pure, Except.pure, reduceCtorEq, false_iff]
      exact failsFirst_nil f e
  | cons x rest ih =>
      rw [List.mapM_cons]
      cases hx : f x with
      | error e' =>
          rw [failsFirst_cons_of_error hx]
          simp [bind, Except.bind]
      | ok b =>
          rw [failsFirst_cons_of_ok hx, ← ih]
          cases rest.mapM f <;> simp [bind, Except.bind, pure, Except.pure]

/-- A run for its effect alone fails in the same way. -/
theorem forM_eq_error_iff (f : α → Except ε Unit) (items : List α) (e : ε) :
    forM items f = .error e ↔ FailsFirst f items e := by
  induction items with
  | nil =>
      simp only [List.forM_nil, pure, Except.pure, reduceCtorEq, false_iff]
      exact failsFirst_nil f e
  | cons x rest ih =>
      rw [List.forM_cons]
      cases hx : f x with
      | error e' =>
          rw [failsFirst_cons_of_error hx]
          simp [bind, Except.bind]
      | ok u =>
          rw [failsFirst_cons_of_ok hx, ← ih]
          simp [bind, Except.bind]

theorem exists_related_of_mem {R : α → β → Prop} {xs : List α} {ys : List β}
    (h : List.Forall₂ R xs ys) {x : α} (hx : x ∈ xs) : ∃ y ∈ ys, R x y := by
  induction h with
  | nil => cases hx
  | cons hxy _ ih =>
      rcases List.mem_cons.mp hx with rfl | hx
      · exact ⟨_, List.mem_cons_self, hxy⟩
      · obtain ⟨y, hy, hrelated⟩ := ih hx
        exact ⟨y, List.mem_cons_of_mem _ hy, hrelated⟩

theorem exists_mapM_eq_ok_iff (f : α → Except ε β) (items : List α) :
    (∃ results, items.mapM f = .ok results) ↔
      ∀ item ∈ items, ∃ b, f item = .ok b := by
  simp only [mapM_eq_ok_iff]
  constructor
  · rintro ⟨results, hresults⟩ item hitem
    obtain ⟨b, -, hb⟩ := exists_related_of_mem hresults hitem
    exact ⟨b, hb⟩
  · intro hall
    induction items with
    | nil => exact ⟨[], .nil⟩
    | cons x rest ih =>
        obtain ⟨b, hb⟩ := hall x List.mem_cons_self
        obtain ⟨results, hresults⟩ :=
          ih fun item hitem => hall item (List.mem_cons_of_mem x hitem)
        exact ⟨b :: results, .cons hb hresults⟩

end CaptureForest
