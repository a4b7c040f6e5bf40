/-!
# Sorters

A sort knows its items only by asking whether one goes before another, and then tells in which order
their places are to be taken. About which pairs it asks, and when, is left to the sorter. The question is
put by a "less than" question that may fail; the first failure makes the sort fail.
-/

namespace CaptureForest

/-- A way to a result by questions about two items each. What is asked next depends on the answers. -/
inductive Inquiry (ι α : Type) where
  | done (result : α)
  | ask (x y : ι) (next : Bool → Inquiry ι α)

namespace Inquiry

variable {ι α β ε : Type}

protected def bind (q : Inquiry ι α) (f : α → Inquiry ι β) : Inquiry ι β :=
  match q with
  | .done a => f a
  | .ask x y next => .ask x y fun answer => (next answer).bind f

instance : Monad (Inquiry ι) where
  pure := .done
  bind := Inquiry.bind

/-- The answer to one question. -/
def whether (x y : ι) : Inquiry ι Bool := .ask x y .done

/-- What an inquiry comes to when it is answered. The first answer that fails ends it. -/
def run (answer : ι → ι → Except ε Bool) : Inquiry ι α → Except ε α
  | .done a => .ok a
  | .ask x y next =>
    match answer x y with
    | .error e => .error e
    | .ok b => (next b).run answer

/-- The pairs that are asked about, up to the first answer that fails. -/
def asked (answer : ι → ι → Except ε Bool) : Inquiry ι α → List (ι × ι)
  | .done _ => []
  | .ask x y next =>
    (x, y) ::
      match answer x y with
      | .error _ => []
      | .ok b => (next b).asked answer

/-- Whatever is answered, the result has a property. -/
def Always (P : α → Prop) : Inquiry ι α → Prop
  | .done a => P a
  | .ask _ _ next => ∀ b, (next b).Always P

theorem Always.bind {P : α → Prop} {Q : β → Prop} {q : Inquiry ι α} {f : α → Inquiry ι β}
    (hq : q.Always P) (hf : ∀ a, P a → (f a).Always Q) : (q >>= f).Always Q := by
  induction q with
  | done a => exact hf a hq
  | ask x y next ih => exact fun b => ih b (hq b)

theorem Always.mono {P Q : α → Prop} {q : Inquiry ι α} (hq : q.Always P) (h : ∀ a, P a → Q a) :
    q.Always Q := by
  induction q with
  | done a => exact h a hq
  | ask x y next ih => exact fun b => ih b (hq b)

theorem Always.of_run {P : α → Prop} {q : Inquiry ι α} {answer : ι → ι → Except ε Bool} {a : α}
    (hq : q.Always P) (h : q.run answer = .ok a) : P a := by
  induction q with
  | done b =>
    obtain rfl := Except.ok.inj h
    exact hq
  | ask x y next ih =>
    rw [run] at h
    split at h
    · cases h
    · exact ih _ (hq _) h

end Inquiry

/-- How any number of items is sorted: an inquiry about their places, which comes to all places in some
order. -/
structure Sorter where
  inquiry : (n : Nat) → Inquiry (Fin n) (List (Fin n))
  perm : ∀ n, (inquiry n).Always fun places => places.Perm (List.finRange n)

namespace Sorter

variable {α ε : Type}

/-- Whether the first item goes before the second. The opposite question is asked as well, and fails
for both. -/
def precedes (less : α → α → Except ε Bool) (x y : α) : Except ε Bool :=
  match less x y with
  | .error e => .error e
  | .ok true => .ok true
  | .ok false =>
    match less y x with
    | .error e => .error e
    | .ok _ => .ok false

/-- The questions that are asked to tell whether one item goes before another. -/
def questions (less : α → α → Except ε Bool) (x y : α) : List (α × α) :=
  match less x y with
  | .ok false => [(x, y), (y, x)]
  | _ => [(x, y)]

/-- The items from the least to the greatest, as far as the sorter finds out. -/
def sort (s : Sorter) (less : α → α → Except ε Bool) (items : List α) : Except ε (List α) :=
  match (s.inquiry items.length).run fun i j => precedes less (items.get i) (items.get j) with
  | .error e => .error e
  | .ok places => .ok (places.map items.get)

/-- The questions that sorting asks, up to the first that fails. -/
def asked (s : Sorter) (less : α → α → Except ε Bool) (items : List α) : List (α × α) :=
  let pairs := (s.inquiry items.length).asked fun i j => precedes less (items.get i) (items.get j)
  pairs.flatMap fun (i, j) => questions less (items.get i) (items.get j)

theorem sort_perm {s : Sorter} {less : α → α → Except ε Bool} {items result : List α}
    (h : s.sort less items = .ok result) : result.Perm items := by
  unfold sort at h
  split at h
  · cases h
  · rename_i places hplaces
    obtain rfl := Except.ok.inj h
    have hperm := ((s.perm items.length).of_run hplaces).map items.get
    have hall : (List.finRange items.length).map items.get = items := by
      rw [List.finRange, List.map_ofFn]
      exact List.ofFn_getElem
    rwa [hall] at hperm

end Sorter

end CaptureForest
