import CaptureForest.Sorter
/-!
# Stable sorting

The sorter of this library. It takes the longest run from the front of the items, in which each item
goes before the last one or none does; a run of the first kind is turned around. The other items are
inserted one after another, each behind all items that it does not go before, which are found by halving.
-/

namespace CaptureForest

namespace StableSort

variable {ι : Type}

/-- Inserts an item into a list that is in order: behind its middle item or before that. -/
def insert (x : ι) : List ι → Inquiry ι (List ι)
  | [] => return [x]
  | first :: rest => do
    let sorted := first :: rest
    let half := sorted.length / 2
    let middle := sorted.get ⟨half, Nat.div_lt_self (Nat.succ_pos _) (by decide)⟩
    let before := sorted.take half
    let after := sorted.drop (half + 1)
    if ← .whether x middle then return (← insert x before) ++ middle :: after
    else return before ++ middle :: (← insert x after)
termination_by sorted => sorted.length
decreasing_by all_goals grind

/-- Takes items as long as each of them goes before the one taken last, or as long as none does. The items
that were taken are given from the last to the first. -/
def takeRun (isFalling : Bool) (last : ι) (taken : List ι) : List ι → Inquiry ι (List ι × List ι)
  | [] => return (last :: taken, [])
  | x :: rest => do
    if (← .whether x last) = isFalling then takeRun isFalling x (last :: taken) rest
    else return (last :: taken, x :: rest)

/-- The run at the front of the items, in order, and the other items. -/
def firstRun : List ι → Inquiry ι (List ι × List ι)
  | x :: y :: rest => do
    let isFalling ← .whether y x
    let (taken, rest) ← takeRun isFalling y [x] rest
    return (if isFalling then taken else taken.reverse, rest)
  | items => return (items, [])

def insertAll (sorted : List ι) : List ι → Inquiry ι (List ι)
  | [] => return sorted
  | x :: rest => do insertAll (← insert x sorted) rest

def inquiry (items : List ι) : Inquiry ι (List ι) := do
  let (run, rest) ← firstRun items
  insertAll run rest

/-- An item is inserted into the half in front of the middle item or into the half behind it. -/
theorem insert_eq (x : ι) {sorted : List ι} (hne : sorted ≠ []) :
    ∃ before middle after, sorted = before ++ middle :: after ∧
      insert x sorted = (do
        if ← .whether x middle then return (← insert x before) ++ middle :: after
        else return before ++ middle :: (← insert x after)) := by
  match sorted with
  | [] => exact absurd rfl hne
  | first :: rest =>
    rw [insert]
    refine ⟨_, _, _, ?_, rfl⟩
    rw [List.get_eq_getElem, ← List.drop_eq_getElem_cons, List.take_append_drop]

theorem insert_nil (x : ι) : insert x [] = .done [x] := by
  rw [insert]
  rfl

/-! ### All items are kept -/

theorem insert_perm (x : ι) (sorted : List ι) : (insert x sorted).Always (·.Perm (x :: sorted)) := by
  induction h : sorted.length using Nat.strongRecOn generalizing sorted with
  | ind n ih =>
    by_cases hne : sorted = []
    · subst hne
      rw [insert_nil]
      exact List.Perm.refl [x]
    · obtain ⟨before, middle, after, rfl, heq⟩ := insert_eq x hne
      rw [List.length_append, List.length_cons] at h
      rw [heq]
      intro isBefore
      cases isBefore with
      | true =>
        refine (ih _ (by omega) before rfl).bind fun inserted hinserted => ?_
        exact hinserted.append_right (middle :: after)
      | false =>
        refine (ih _ (by omega) after rfl).bind fun inserted hinserted => ?_
        have hfront : (before ++ middle :: inserted).Perm (before ++ x :: middle :: after) :=
          ((hinserted.cons middle).trans (.swap x middle after)).append_left before
        exact hfront.trans List.perm_middle

theorem takeRun_perm (isFalling : Bool) (last : ι) (taken items : List ι) :
    (takeRun isFalling last taken items).Always fun found =>
      (found.1 ++ found.2).Perm (last :: taken ++ items) := by
  induction items generalizing last taken with
  | nil => exact List.Perm.refl _
  | cons x rest ih =>
    intro isBefore
    change Inquiry.Always _ (if isBefore = isFalling then _ else _)
    split
    · exact (ih x (last :: taken)).mono fun found hfound => hfound.trans List.perm_middle.symm
    · exact List.Perm.refl _

theorem firstRun_perm (items : List ι) :
    (firstRun items).Always fun found => (found.1 ++ found.2).Perm items := by
  match items with
  | [] => exact List.Perm.refl _
  | [x] => exact List.Perm.refl _
  | x :: y :: rest =>
    intro isFalling
    refine (takeRun_perm isFalling y [x] rest).bind fun found hfound => ?_
    have hkept : (found.1 ++ found.2).Perm (x :: y :: rest) := hfound.trans (.swap x y rest)
    cases isFalling with
    | true => exact hkept
    | false => exact ((List.reverse_perm found.1).append_right found.2).trans hkept

theorem insertAll_perm (sorted items : List ι) :
    (insertAll sorted items).Always (·.Perm (sorted ++ items)) := by
  induction items generalizing sorted with
  | nil =>
    rw [List.append_nil]
    exact List.Perm.refl _
  | cons x rest ih =>
    refine (insert_perm x sorted).bind fun inserted hinserted => ?_
    refine (ih inserted).mono fun found hfound => hfound.trans ?_
    exact (hinserted.append_right rest).trans List.perm_middle.symm

theorem inquiry_perm (items : List ι) : (inquiry items).Always (·.Perm items) := by
  refine (firstRun_perm items).bind fun found hfound => ?_
  exact (insertAll_perm found.1 found.2).mono fun sorted hsorted => hsorted.trans hfound

def sorter : Sorter where
  inquiry n := inquiry (List.finRange n)
  perm n := inquiry_perm (List.finRange n)

end StableSort

end CaptureForest
