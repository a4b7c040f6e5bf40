import CaptureForest.Proofs.Sorting
import CaptureForest.Proofs.Unreportable

/-!
# Questions that are refused

The roots of a forest are put in order before the first of them is checked, and
the children of a group before the first of these is checked.  An order is
therefore asked about declarations that may turn out to be invalid, and if it
fails on one of them then the compilation fails as the order does, with whatever
fault that is, although an error about the declaration would have followed.

The trace of a compilation holds the questions that it asks.  A compilation with
reportable errors fails with a fault of the host exactly if one of its questions
does.
-/

namespace CaptureForest

/-- A strict weak order on the declarations with the property. -/
structure Less.IsStrictWeakOn (less : Less) (P : Declaration → Prop) : Prop where
  answers : less.AnswersOn P
  irrefl : ∀ a, P a → less a a = .ok false
  trans : ∀ a b c, P a → P b → P c →
    less a b = .ok true → less b c = .ok true → less a c = .ok true
  incomparable : ∀ a b c, P a → P b → P c →
    less a b = .ok false → less b a = .ok false → less b c = .ok false → less c b = .ok false →
      less a c = .ok false ∧ less c a = .ok false

def Declaration.Passes (d : Declaration) : Prop := d.passes = true

instance (d : Declaration) : Decidable d.Passes := inferInstanceAs (Decidable (d.passes = true))

namespace Compile

/-- The order that answers a question, if there is one. -/
def Question.order? (plan : Plan) (q : Question) : Option Less :=
  if q.isAmongRoots then plan.sortForest else plan.sortChildren

def Question.answer (plan : Plan) (q : Question) : Except Fault Bool :=
  match q.order? plan with
  | some less => less q.first q.second
  | none => .ok false

/-- The question is about two roots of the forest, or about two children of a
visited declaration that passes with all its ancestors. -/
inductive Question.IsAboutSiblings (v : Value) : Question → Prop
  | roots {nodes : List Declaration} {a b : Declaration} (h : Declaration.ofForest v = .ok nodes)
      (ha : a ∈ nodes) (hb : b ∈ nodes) : IsAboutSiblings v ⟨true, a, b⟩
  | children {u : Visit} {a b : Declaration} (hu : u ∈ Forest.visits v)
      (hpass : ∀ d ∈ u.lineage, d.Passes) (ha : a ∈ u.node.children)
      (hb : b ∈ u.node.children) : IsAboutSiblings v ⟨false, a, b⟩

variable {plan : Plan} {sorter : Sorter} {α : Type}

/-! ### Putting declarations in order -/

/-- Declarations cannot be put in order exactly if one of the questions about
them fails. -/
theorem inOrder_eq_error_iff {isAmongRoots : Bool} {order : Option Less}
    (horder : (if isAmongRoots then plan.sortForest else plan.sortChildren) = order)
    (nodes : List Declaration) (f : Fault) :
    inOrder sorter order nodes = .error f ↔
      ∃ q ∈ questions isAmongRoots sorter order nodes, q.answer plan = .error f := by
  cases order with
  | none => simp [inOrder, questions]
  | some less =>
      have hanswer : ∀ a b, Question.answer plan ⟨isAmongRoots, a, b⟩ = less a b := by
        intro a b
        simp [Question.answer, Question.order?, horder]
      rw [inOrder, Declaration.sort, Sorter.sort_eq_error_iff]
      simp [questions, hanswer]

theorem mem_of_mem_questions {isAmongRoots : Bool} {order : Option Less}
    {nodes : List Declaration} {q : Question} (h : q ∈ questions isAmongRoots sorter order nodes) :
    q.isAmongRoots = isAmongRoots ∧ q.first ∈ nodes ∧ q.second ∈ nodes := by
  cases order with
  | none => cases h
  | some less =>
      obtain ⟨pair, hpair, rfl⟩ := List.mem_map.mp h
      exact ⟨rfl, Sorter.mem_of_mem_asked hpair⟩

theorem traceTrees_outline (plan : Plan) (ancestors nodes : List Declaration) :
    traceTrees plan ancestors (nodes.map Declaration.outline) =
      nodes.map fun d => (d, traceTree plan ancestors d.outline) := by
  induction nodes with
  | nil => rfl
  | cons d rest ih =>
      rw [List.map_cons, traceTrees, ih, Declaration.declaration_outline, List.map_cons]

/-! ### Traces and results -/

/-- The trace belongs to the result: its way goes on to the end if there is one,
and the faults of the host are those of its questions. -/
structure Trace.Explains (plan : Plan) (t : Trace) (result : Except Fault α) : Prop where
  completed_iff : t.completed = true ↔ ∃ a, result = .ok a
  host_iff : ∀ e, result = .error (.host e) ↔
    ∃ q ∈ t.questions, q.answer plan = .error (.host e)

namespace Trace.Explains

theorem of_ok {t : Trace} {a : α} (hcompleted : t.completed = true)
    (hquestions : t.questions = []) : Explains plan t (.ok a : Except Fault α) where
  completed_iff := by simp [hcompleted]
  host_iff := by simp [hquestions]

theorem of_capture {t : Trace} {e : CaptureError} (hcompleted : t.completed = false)
    (hquestions : t.questions = []) :
    Explains plan t (.error (.capture e) : Except Fault α) where
  completed_iff := by simp [hcompleted]
  host_iff := by simp [hquestions]

/-- A run over declarations is explained by the traces of its parts. -/
theorem join {nodes : List Declaration} {trace : Declaration → Trace}
    {result : Declaration → Except Fault Compiled}
    (h : ∀ d ∈ nodes, Explains plan (trace d) (result d)) :
    Explains plan (Trace.join (nodes.map trace)) (gather (nodes.map fun d => (d, result d))) := by
  induction nodes with
  | nil => exact of_ok rfl rfl
  | cons d rest ih =>
      have hd := h d List.mem_cons_self
      have hrest := ih fun d' hd' => h d' (List.mem_cons_of_mem d hd')
      rw [List.map_cons, List.map_cons, Trace.join, gather.eq_def]
      cases hresult : result d with
      | error f =>
          rw [hresult] at hd
          have hcompleted : (trace d).completed = false := by
            rw [← Bool.not_eq_true, hd.completed_iff]
            simp
          rw [if_neg (by simp [hcompleted])]
          exact ⟨by simp [hcompleted], fun e => by simpa using hd.host_iff e⟩
      | ok first =>
          rw [hresult] at hd
          have hnone : ∀ e, ¬ ∃ q ∈ (trace d).questions, q.answer plan = .error (.host e) := by
            intro e
            rw [← hd.host_iff]
            simp
          rw [if_pos (hd.completed_iff.mpr ⟨first, rfl⟩)]
          constructor
          · simp only [hrest.completed_iff]
            cases gather (rest.map fun d => (d, result d)) <;> simp
          · intro e
            simp only [List.mem_append, or_and_right, exists_or, hnone e, false_or,
              ← hrest.host_iff e]
            cases gather (rest.map fun d => (d, result d)) <;> simp

end Trace.Explains

/-- Messages do not matter, nor what is made of the result. -/
theorem Trace.Explains.of_map {β : Type} {t t' : Trace} {result : Except Fault α}
    (h : Explains plan t result) (g : α → β) (hcompleted : t'.completed = t.completed)
    (hquestions : t'.questions = t.questions) : Explains plan t' (result.map g) where
  completed_iff := by
    rw [hcompleted, h.completed_iff]
    cases result <;> simp [Except.map]
  host_iff := by
    intro e
    rw [hquestions, ← h.host_iff e]
    cases result <;> simp [Except.map]

/-- The trace of declarations that are put in order before they are run over. -/
def sortedTrace (isAmongRoots : Bool) (sorter : Sorter) (order : Option Less)
    (trace : Declaration → Trace) (nodes : List Declaration) : Trace :=
  let asked := questions isAmongRoots sorter order nodes
  match inOrder sorter order nodes with
  | .error _ => { questions := asked, completed := false }
  | .ok sorted =>
    let below := Trace.join (sorted.map trace)
    { below with questions := asked ++ below.questions }

/-- A question is refused before the run, or in the run. -/
theorem Trace.Explains.sorted {isAmongRoots : Bool} {order : Option Less}
    (horder : (if isAmongRoots then plan.sortForest else plan.sortChildren) = order)
    {nodes : List Declaration} {trace : Declaration → Trace}
    {result : Declaration → Except Fault Compiled}
    (h : ∀ d ∈ nodes, Explains plan (trace d) (result d)) :
    Explains plan (sortedTrace isAmongRoots sorter order trace nodes)
      (sortedResult sorter order result nodes) := by
  have hasked := @inOrder_eq_error_iff plan sorter _ _ horder nodes
  unfold sortedTrace sortedResult
  cases hsort : inOrder sorter order nodes with
  | error f => exact ⟨by simp, fun e => by simp [← hasked, hsort]⟩
  | ok sorted =>
      have hjoin := join fun d hd => h d ((inOrder_perm hsort).subset hd)
      refine ⟨hjoin.completed_iff, fun e => ?_⟩
      have hnone : ¬ ∃ q ∈ Compile.questions isAmongRoots sorter order nodes,
          q.answer plan = .error (.host e) := by
        rw [← hasked, hsort]
        simp
      simp only [List.mem_append, or_and_right, exists_or, hnone, false_or]
      exact hjoin.host_iff e

/-- A leaf of a declaration that passes is refused with an error of the library
only. -/
theorem leaf_ne_host {ancestors : List Declaration} {d : Declaration}
    (hvalidate : d.validate ancestors = .ok ()) (hchildren : d.hasChildren = false)
    (e : HostFault) : leaf plan ancestors d ≠ .error (.host e) := by
  intro hleaf
  have hentry : Visit.entry plan.defaultType ⟨ancestors, d⟩ = .error (.host e) := by
    unfold leaf at hleaf
    simp only [Visit.entry, hvalidate, hchildren, Bool.false_eq_true, if_false]
    cases hresolved : d.leaf plan.defaultType ancestors (fullKey ancestors d) with
    | error f =>
        simp only [hresolved] at hleaf
        simpa using hleaf
    | ok l => simp [hresolved] at hleaf
  obtain ⟨-, hd⟩ := (Visit.entry_eq_host_iff _ _ e).mp hentry
  rw [Declaration.validate_of_isUnreportable hd] at hvalidate
  cases hvalidate

/-- The trace of a group, without the report on the group itself. -/
def groupTrace (plan : Plan) (ancestors : List Declaration) (d : Declaration) : Trace :=
  sortedTrace false plan.sorter plan.sortChildren
    (fun child => traceTree plan (ancestors ++ [d]) child.outline) d.children

theorem traceTree_group {ancestors : List Declaration} {d : Declaration}
    (hvalidate : d.validate ancestors = .ok ()) (hchildren : d.hasChildren = true) :
    (traceTree plan ancestors d.outline).completed = (groupTrace plan ancestors d).completed ∧
      (traceTree plan ancestors d.outline).questions =
        (groupTrace plan ancestors d).questions := by
  rw [Declaration.outline_eq, traceTree, traceTrees_outline]
  simp only [hvalidate, hchildren, if_true, arrange_map, List.map_map, Function.comp_def,
    List.map_id', groupTrace, sortedTrace]
  cases inOrder plan.sorter plan.sortChildren d.children with
  | error f => exact ⟨rfl, rfl⟩
  | ok sorted =>
      simp only [Except.map, List.map_map, Function.comp_def]
      split <;> exact ⟨rfl, rfl⟩

/-- The trace of a tree belongs to what the tree compiles to. -/
theorem explains_tree {d : Declaration} {ancestors : List Declaration}
    (h : ∀ u ∈ d.visits ancestors, ¬ u.node.IsUnreportable) :
    Trace.Explains plan (traceTree plan ancestors d.outline) (tree plan ancestors d.outline) := by
  induction d using Declaration.induction generalizing ancestors with
  | step d ih =>
      rw [Declaration.visits_eq] at h
      have hd := h _ List.mem_cons_self
      cases hvalidate : d.validate ancestors with
      | error f =>
          cases f with
          | host e => exact absurd hvalidate (Declaration.validate_ne_host hd ancestors e)
          | capture e =>
              -- nothing is asked about the children of a declaration that fails
              rw [Declaration.outline_eq, traceTree, tree]
              simp only [hvalidate]
              exact .of_capture rfl rfl
      | ok _ =>
          cases hchildren : d.hasChildren with
          | true =>
              obtain ⟨hcompleted, hquestions⟩ :=
                @traceTree_group plan ancestors d hvalidate hchildren
              rw [tree_group hvalidate hchildren]
              refine Trace.Explains.of_map ?_ (group ancestors d) hcompleted hquestions
              refine .sorted rfl fun child hchild => ih child hchild fun u hu => ?_
              exact h u (List.mem_cons_of_mem _ (List.mem_flatMap.mpr ⟨child, hchild, hu⟩))
          | false =>
              have hleaf := @leaf_ne_host plan ancestors d hvalidate hchildren
              rw [Declaration.outline_eq, traceTree, tree]
              simp only [hvalidate, hchildren, Bool.false_eq_true, if_false]
              cases hresult : leaf plan ancestors d with
              | ok c => exact .of_ok rfl rfl
              | error f =>
                  cases f with
                  | host e => exact absurd hresult (hleaf e)
                  | capture e => exact .of_capture rfl rfl

variable {v : Value}

theorem traceRoots_eq (plan : Plan) (nodes : List Declaration) :
    traceRoots plan nodes =
      sortedTrace true plan.sorter plan.sortForest (fun d => traceTree plan [] d.outline) nodes := by
  rw [traceRoots, traceTrees_outline, arrange_map, sortedTrace]
  cases inOrder plan.sorter plan.sortForest nodes with
  | error f => rfl
  | ok sorted => simp [Except.map, Function.comp_def]

/-- A compilation fails with a fault of the host exactly if one of its questions
does. -/
theorem forest_eq_host_iff_asked (h : ∀ u ∈ Forest.visits v, ¬ u.node.IsUnreportable)
    (e : HostFault) :
    forest plan v = .error (.host e) ↔
      ∃ q ∈ asked plan v, q.answer plan = .error (.host e) := by
  cases hnodes : Declaration.ofForest v with
  | error f => simp [forest, asked, hnodes]
  | ok nodes =>
      rw [Forest.visits_of_ofForest hnodes] at h
      have htrees : ∀ d ∈ nodes, Trace.Explains plan (traceTree plan [] d.outline)
          (tree plan [] d.outline) := by
        intro d hd
        exact explains_tree fun u hu => h u (List.mem_flatMap.mpr ⟨d, hd, hu⟩)
      have hroots := @Trace.Explains.sorted plan plan.sorter true _ rfl _ _ _ htrees
      simp only [forest, asked, hnodes, traceRoots_eq, roots_eq]
      exact (hroots.of_map _ rfl rfl).host_iff e

/-! ### What is asked -/

theorem Trace.mem_questions_join {traces : List Trace} {q : Question}
    (h : q ∈ (Trace.join traces).questions) : ∃ t ∈ traces, q ∈ t.questions := by
  induction traces with
  | nil => cases h
  | cons t rest ih =>
      rw [Trace.join] at h
      split at h
      · rcases List.mem_append.mp h with h | h
        · exact ⟨t, List.mem_cons_self, h⟩
        · obtain ⟨t', ht', hq⟩ := ih h
          exact ⟨t', List.mem_cons_of_mem t ht', hq⟩
      · exact ⟨t, List.mem_cons_self, h⟩

theorem mem_questions_sortedTrace {isAmongRoots : Bool} {order : Option Less}
    {trace : Declaration → Trace} {nodes : List Declaration} {q : Question}
    (h : q ∈ (sortedTrace isAmongRoots sorter order trace nodes).questions) :
    (q.isAmongRoots = isAmongRoots ∧ q.first ∈ nodes ∧ q.second ∈ nodes) ∨
      ∃ d ∈ nodes, q ∈ (trace d).questions := by
  unfold sortedTrace at h
  cases hsort : inOrder sorter order nodes with
  | error f =>
      rw [hsort] at h
      exact .inl (mem_of_mem_questions h)
  | ok sorted =>
      rw [hsort] at h
      rcases List.mem_append.mp h with h | h
      · exact .inl (mem_of_mem_questions h)
      · obtain ⟨t, ht, hq⟩ := Trace.mem_questions_join h
        obtain ⟨d, hd, rfl⟩ := List.mem_map.mp ht
        exact .inr ⟨d, (inOrder_perm hsort).subset hd, hq⟩

/-- Below the roots a tree asks about children of declarations that pass. -/
theorem siblings_of_mem_traceTree {d : Declaration} {ancestors : List Declaration}
    (hpass : ∀ a ∈ ancestors, a.Passes) {q : Question}
    (h : q ∈ (traceTree plan ancestors d.outline).questions) :
    q.isAmongRoots = false ∧ ∃ u ∈ d.visits ancestors, (∀ a ∈ u.lineage, a.Passes) ∧
      q.first ∈ u.node.children ∧ q.second ∈ u.node.children := by
  induction d using Declaration.induction generalizing ancestors with
  | step d ih =>
      cases hvalidate : d.validate ancestors with
      | error f =>
          rw [Declaration.outline_eq, traceTree] at h
          simp [hvalidate] at h
      | ok _ =>
          cases hchildren : d.hasChildren with
          | false =>
              rw [Declaration.outline_eq, traceTree] at h
              cases hleaf : leaf plan ancestors d <;> simp [hvalidate, hchildren, hleaf] at h
          | true =>
              have hlineage : ∀ a ∈ ancestors ++ [d], a.Passes := by
                intro a ha
                rcases List.mem_append.mp ha with ha | ha
                · exact hpass a ha
                · rw [List.mem_singleton] at ha
                  rw [ha]
                  exact (d.passes_iff ancestors).mpr hvalidate
              rw [(traceTree_group hvalidate hchildren).2] at h
              rw [Declaration.visits_eq]
              rcases mem_questions_sortedTrace h with ⟨hroots, hmem⟩ | ⟨child, hchild, hq⟩
              · exact ⟨hroots, ⟨ancestors, d⟩, List.mem_cons_self, hlineage, hmem⟩
              · obtain ⟨hroots, u, hu, hmem⟩ := ih child hchild hlineage hq
                refine ⟨hroots, u, List.mem_cons_of_mem _ ?_, hmem⟩
                exact List.mem_flatMap.mpr ⟨child, hchild, hu⟩

theorem isAboutSiblings_of_mem_asked {q : Question} (h : q ∈ asked plan v) :
    q.IsAboutSiblings v := by
  unfold asked at h
  cases hnodes : Declaration.ofForest v with
  | error e => simp [hnodes] at h
  | ok nodes =>
      obtain ⟨isAmongRoots, a, b⟩ := q
      simp only [hnodes, traceRoots_eq] at h
      rcases mem_questions_sortedTrace h with ⟨rfl, ha, hb⟩ | ⟨d, hd, hq⟩
      · exact .roots hnodes ha hb
      · obtain ⟨rfl, u, hu, hpass, ha, hb⟩ := siblings_of_mem_traceTree (by simp) hq
        refine .children ?_ hpass ha hb
        rw [Forest.visits_of_ofForest hnodes]
        exact List.mem_flatMap.mpr ⟨d, hd, hu⟩

theorem Question.exists_answer (hplan : plan.AnswersOn Declaration.Passes) {q : Question}
    (hfirst : q.first.Passes) (hsecond : q.second.Passes) :
    ∃ isLess, q.answer plan = .ok isLess := by
  unfold answer
  cases horder : q.order? plan with
  | none => exact ⟨false, rfl⟩
  | some less =>
      unfold order? at horder
      split at horder
      · exact hplan.forest less horder _ _ hfirst hsecond
      · exact hplan.children less horder _ _ hfirst hsecond

/-! ### Comparing keys -/

/-- The keys of declarations that pass are compared as texts. -/
theorem plainKeys_of_passes {a b : Declaration} (ha : a.Passes) (hb : b.Passes) :
    SiblingOrder.plainKeys.less a b =
      .ok (decide (a.keys?.getD "" < b.keys?.getD "")) := by
  have hkeys : ∀ d : Declaration, d.Passes → ∃ k, d.keys? = some k ∧ d.keys.text? = some k := by
    intro d hd
    have hlabel := Declaration.isLabelled_of_validate ((d.passes_iff []).mp hd)
    obtain ⟨k, hk⟩ := (Declaration.hasKeys_iff d).mp hlabel.keys
    exact ⟨k, hk, (Option.filter_eq_some_iff.mp hk).1⟩
  obtain ⟨k, hk, htext⟩ := hkeys a ha
  obtain ⟨l, hl, htext'⟩ := hkeys b hb
  simp [SiblingOrder.less, SiblingOrder.textLess, hk, hl, htext, htext']

theorem plainKeys_isStrictWeakOn :
    SiblingOrder.plainKeys.less.IsStrictWeakOn Declaration.Passes where
  answers := fun _ _ ha hb => ⟨_, plainKeys_of_passes ha hb⟩
  irrefl := by
    intro a ha
    rw [plainKeys_of_passes ha ha]
    simp
  trans := by
    intro a b c ha hb hc
    rw [plainKeys_of_passes ha hb, plainKeys_of_passes hb hc, plainKeys_of_passes ha hc]
    simpa using String.lt_trans
  incomparable := by
    intro a b c ha hb hc
    rw [plainKeys_of_passes ha hb, plainKeys_of_passes hb ha, plainKeys_of_passes hb hc,
      plainKeys_of_passes hc hb, plainKeys_of_passes ha hc, plainKeys_of_passes hc ha]
    simp only [Except.ok.injEq, decide_eq_false_iff_not, String.not_lt]
    intro hba hab hcb hbc
    exact ⟨String.le_trans hcb hba, String.le_trans hab hbc⟩

/-! ### Faults of orders -/

/-- In a forest whose errors can be reported, a compilation fails with a fault of
the host exactly if the fault answers one of its questions, which are all about
siblings.  If the orders answer all questions about declarations that pass, then
one of the two siblings does not; and if all siblings that are compared pass, the
compilation succeeds or fails with an error of the library. -/
theorem fails_by_host_iff_refused (hnames : ∀ u ∈ Forest.visits v, u.node.HasTextNames) :
    (∀ e, forest plan v = .error (.host e) ↔
      ∃ q ∈ asked plan v, q.answer plan = .error (.host e)) ∧
    (∀ q ∈ asked plan v, q.IsAboutSiblings v) ∧
    (plan.AnswersOn Declaration.Passes →
      (∀ q ∈ asked plan v, ∀ f, q.answer plan = .error f →
        ¬ (q.first.Passes ∧ q.second.Passes)) ∧
      ((∀ q ∈ asked plan v, q.first.Passes ∧ q.second.Passes) →
        (∃ c, forest plan v = .ok c) ∨ ∃ e, forest plan v = .error (.capture e))) := by
  have hhost := @forest_eq_host_iff_asked plan v fun u hu hunreportable =>
    hunreportable.names (hnames u hu)
  refine ⟨hhost, fun q hq => isAboutSiblings_of_mem_asked hq, fun hplan => ?_⟩
  have hrefused : ∀ q ∈ asked plan v, ∀ f, q.answer plan = .error f →
      ¬ (q.first.Passes ∧ q.second.Passes) := by
    rintro q - f hf ⟨hfirst, hsecond⟩
    obtain ⟨isLess, hanswer⟩ := q.exists_answer hplan hfirst hsecond
    rw [hf] at hanswer
    cases hanswer
  refine ⟨hrefused, fun hpass => ?_⟩
  cases hcompiled : forest plan v with
  | ok c => exact .inl ⟨c, rfl⟩
  | error f =>
      cases f with
      | capture e => exact .inr ⟨e, rfl⟩
      | host e =>
          obtain ⟨q, hq, hanswer⟩ := (hhost e).mp hcompiled
          exact absurd (hpass q hq) (hrefused q hq _ hanswer)

/-- A group whose children are sorted by their keys, and have them; the type of one
of them is not known. -/
theorem fails_by_host_iff_refused_of_keys :
    let plan : Plan := { sortChildren := some SiblingOrder.plainKeys.less }
    let v : Value := .list [.map [(.str "name", .str "Tasks"), (.str "keys", .str "t"),
      (.str "children", .list [
        .map [(.str "name", .str "Todo"), (.str "keys", .str "o")],
        .map [(.str "name", .str "Note"), (.str "keys", .str "n"), (.str "type", .str "x")]])]]
    (asked plan v).length = 1 ∧
      ((∃ c, forest plan v = .ok c) ∨ ∃ e, forest plan v = .error (.capture e)) := by
  intro plan v
  have hanswers : plan.AnswersOn Declaration.Passes := by
    constructor
    · rintro less ⟨⟩
    · rintro less ⟨⟩
      exact plainKeys_isStrictWeakOn.answers
  refine ⟨by decide +kernel, ?_⟩
  apply ((@fails_by_host_iff_refused plan v ?_).2.2 hanswers).2
  · decide +kernel
  · decide +kernel

/-- An order that fails on no two declarations that pass may fail on two children,
or on two roots, of which one has no keys; the error about the missing keys is not
reached. -/
theorem wrongType_of_sibling_without_keys :
    let less : Less := SiblingOrder.plainKeys.less
    let siblings : Value := .list [.map [(.str "name", .str "A")],
      .map [(.str "name", .str "B"), (.str "keys", .str "b")]]
    let group : Value := .list [.map [(.str "name", .str "G"), (.str "keys", .str "g"),
      (.str "children", siblings)]]
    less.IsStrictWeakOn Declaration.Passes ∧
      (∀ u ∈ Forest.visits group, u.node.HasTextNames) ∧
      forest { sortChildren := some less } group = .error .wrongType ∧
      forest {} group = .error (.capture (.missingKeys (.str "A") "G/A")) ∧
      (∀ u ∈ Forest.visits siblings, u.node.HasTextNames) ∧
      forest { sortForest := some less } siblings = .error .wrongType ∧
      forest {} siblings = .error (.capture (.missingKeys (.str "A") "A")) :=
  ⟨plainKeys_isStrictWeakOn, by decide +kernel, rfl, rfl, by decide +kernel, rfl, rfl⟩

end Compile

end CaptureForest
