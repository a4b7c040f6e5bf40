import CaptureForest.Proofs.Batch
import CaptureForest.Proofs.CompileOrder

/-!
# Declaring a forest

Declaring a forest compiles it and registers its hooks.  Nothing is stored
before the forest has been compiled to its end and every hook has been checked,
and a hook that comes from a declaration names its phase by a member, so nothing
can fail any more once the first hook is stored.
-/

namespace CaptureForest

/-- What makes declaring a forest fail: it does not compile, or a hook of its
compilation is the first that cannot be called. -/
inductive DeclareFault (plan : Plan) (v : Value) : Fault → Prop
  | compilation {f : Fault} (h : Compile.forest plan v = .error f) : DeclareFault plan v f
  | callback {c : Compilation} {before after : List HookRegistration} {hook : HookRegistration}
      {p : HookPhase} (h : Compile.forest plan v = .ok c)
      (hsplit : c.hooks = before ++ hook :: after)
      (hbefore : ∀ x ∈ before, x.callback.isCallable = true)
      (hphase : hook.phase = .phase p) (hhook : hook.callback.isCallable = false) :
      DeclareFault plan v (.capture (hook.notCallable p))

variable {plan : Plan} {v : Value} {c : Compilation}

namespace HookRegistration

theorem check_of_callable {hook : HookRegistration} {p : HookPhase} (hphase : hook.phase = .phase p)
    (hhook : hook.callback.isCallable = true) : hook.check = .ok p := by
  simp [check, hphase, hhook]

theorem check_of_not_callable {hook : HookRegistration} {p : HookPhase}
    (hphase : hook.phase = .phase p) (hhook : hook.callback.isCallable = false) :
    hook.check = .error (.capture (hook.notCallable p)) := by
  simp [check, hphase, hhook]

theorem HasMember.isAccepted_iff {hook : HookRegistration} (h : hook.HasMember) :
    hook.IsAccepted ↔ hook.callback.isCallable = true := by
  obtain ⟨p, hp⟩ := h
  constructor
  · exact IsAccepted.callback
  · intro hhook
    rw [← hook.exists_check_eq_ok_iff]
    exact ⟨p, check_of_callable hp hhook⟩

end HookRegistration

theorem Visit.hasMember_of_mem_registrations {u : Visit} {hook : HookRegistration}
    (h : hook ∈ u.registrations) : hook.HasMember := by
  obtain ⟨p, rfl⟩ := exists_phase_of_mem_registrations h
  exact ⟨p, rfl⟩

theorem Compile.hasMember_of_mem_hooks (h : forest plan v = .ok c) :
    ∀ hook ∈ c.hooks, hook.HasMember := by
  rw [(areOf_of_forest h).hooks]
  intro hook hhook
  obtain ⟨u, -, hu⟩ := List.mem_flatMap.mp hhook
  exact Visit.hasMember_of_mem_registrations hu

namespace Registry

/-- The first hook of a compilation that is refused is the first that cannot be
called. -/
theorem failsFirst_check_iff (h : Compile.forest plan v = .ok c) (f : Fault) :
    FailsFirst HookRegistration.check c.hooks f ↔ DeclareFault plan v f := by
  have hmembers := Compile.hasMember_of_mem_hooks h
  constructor
  · rintro ⟨before, hook, after, hsplit, hbefore, hhook⟩
    have hfront : ∀ x ∈ before, x.callback.isCallable = true := by
      intro x hx
      have hmember := hmembers x (hsplit ▸ List.mem_append_left _ hx)
      rw [← hmember.isAccepted_iff, ← x.exists_check_eq_ok_iff]
      exact hbefore x hx
    obtain ⟨p, hp⟩ := hmembers hook (hsplit ▸ List.mem_append_right _ List.mem_cons_self)
    cases hcallable : hook.callback.isCallable with
    | true =>
        rw [HookRegistration.check_of_callable hp hcallable] at hhook
        cases hhook
    | false =>
        rw [HookRegistration.check_of_not_callable hp hcallable] at hhook
        obtain rfl := Except.error.inj hhook
        exact .callback h hsplit hfront hp hcallable
  · intro hf
    cases hf with
    | compilation hf =>
        rw [h] at hf
        cases hf
    | @callback c' before after hook p h' hsplit hbefore hphase hhook =>
        rw [h] at h'
        obtain rfl := Except.ok.inj h'
        refine ⟨before, hook, after, hsplit, ?_, HookRegistration.check_of_not_callable hphase hhook⟩
        intro x hx
        rw [x.exists_check_eq_ok_iff]
        have hmember := hmembers x (hsplit ▸ List.mem_append_left _ hx)
        exact hmember.isAccepted_iff.mpr (hbefore x hx)

theorem declare_of_not_compiled {f : Fault} (h : Compile.forest plan v = .error f) (r : Registry) :
    r.declare plan v = (.error f, r) := by
  simp [declare, h]

theorem declare_of_refused {f : Fault} (h : Compile.forest plan v = .ok c)
    (hf : FailsFirst HookRegistration.check c.hooks f) (r : Registry) :
    r.declare plan v = (.error f, r) := by
  simp [declare, h, registerAll_of_refused hf, Except.map]

theorem declare_of_accepted (h : Compile.forest plan v = .ok c)
    (haccepted : ∀ hook ∈ c.hooks, hook.IsAccepted) (r : Registry) :
    r.declare plan v = (.ok c.records, r.insertAll (storable c.hooks)) := by
  have hmembers := Compile.hasMember_of_mem_hooks h
  simp [declare, h, registerAll_of_members haccepted hmembers, Except.map]

theorem declare_cases (plan : Plan) (v : Value) (r : Registry) :
    (∃ f, DeclareFault plan v f ∧ r.declare plan v = (.error f, r)) ∨
    ∃ c, Compile.forest plan v = .ok c ∧ (∀ hook ∈ c.hooks, hook.IsAccepted) ∧
      r.declare plan v = (.ok c.records, r.insertAll (storable c.hooks)) := by
  cases h : Compile.forest plan v with
  | error f => exact .inl ⟨f, .compilation h, declare_of_not_compiled h r⟩
  | ok c =>
      by_cases haccepted : ∀ hook ∈ c.hooks, hook.IsAccepted
      · exact .inr ⟨c, rfl, haccepted, declare_of_accepted h haccepted r⟩
      · obtain ⟨f, hf⟩ := exists_failsFirst haccepted
        exact .inl ⟨f, (failsFirst_check_iff h f).mp hf, declare_of_refused h hf r⟩

theorem declare_of_declareFault {f : Fault} (h : DeclareFault plan v f) (r : Registry) :
    r.declare plan v = (.error f, r) := by
  cases hcompile : Compile.forest plan v with
  | ok c => exact declare_of_refused hcompile ((failsFirst_check_iff hcompile f).mpr h) r
  | error e =>
      cases h with
      | compilation h => exact declare_of_not_compiled h r
      | callback h =>
          rw [hcompile] at h
          cases h

/-- Declaring a forest is all or nothing.  It fails exactly if the forest does not
compile or some hook cannot be called, which does not depend on the registry, and
then the registry is what it was.  Otherwise the records are returned and every
hook of the compilation is stored. -/
theorem declare_all_or_nothing (plan : Plan) (v : Value) (r : Registry) :
    (∀ f r', r.declare plan v = (.error f, r') ↔ r' = r ∧ DeclareFault plan v f) ∧
    ∀ records r', r.declare plan v = (.ok records, r') ↔
      ∃ c, Compile.forest plan v = .ok c ∧ (∀ hook ∈ c.hooks, hook.callback.isCallable = true) ∧
        records = c.records ∧ r' = r.insertAll (storable c.hooks) := by
  constructor
  · intro f r'
    constructor
    · intro h
      rcases declare_cases plan v r with ⟨e, he, hdeclare⟩ | ⟨c, -, -, hdeclare⟩
      · rw [hdeclare, Prod.mk.injEq, Except.error.injEq] at h
        obtain ⟨rfl, rfl⟩ := h
        exact ⟨rfl, he⟩
      · rw [hdeclare, Prod.mk.injEq] at h
        cases h.1
    · rintro ⟨rfl, hf⟩
      exact declare_of_declareFault hf r'
  · intro records r'
    constructor
    · intro h
      rcases declare_cases plan v r with ⟨e, -, hdeclare⟩ | ⟨c, hcompile, haccepted, hdeclare⟩
      · rw [hdeclare, Prod.mk.injEq] at h
        cases h.1
      · rw [hdeclare, Prod.mk.injEq, Except.ok.injEq] at h
        refine ⟨c, hcompile, ?_, h.1.symm, h.2.symm⟩
        intro hook hhook
        exact (haccepted hook hhook).callback
    · rintro ⟨c, hcompile, hcallable, rfl, rfl⟩
      apply declare_of_accepted hcompile
      intro hook hhook
      have hmember := Compile.hasMember_of_mem_hooks hcompile hook hhook
      exact hmember.isAccepted_iff.mpr (hcallable hook hhook)

/-- The hook of a leaf below the second root cannot be called, after a hook that
can; and a sort order that always fails. -/
theorem declare_all_or_nothing_of_late_fault :
    let f : Value := .callable (.function "cb" "f")
    let v : Value := .list [
      .node (.str "A") [(.str "keys", .str "a"), (.str "hook", f)],
      .node (.str "B") [(.str "keys", .str "b"), (.str "children", .list [
        .map [(.str "name", .str "C"), (.str "keys", .str "c"), (.str "hook", .str "g")]])]]
    let hook : HookRegistration := ⟨.str "bc", .str "g", .phase .mode, .str "C"⟩
    let r : Registry := { handlers := [⟨"declcapture-hook/mode/a", .mode,
      ⟨.str "a", .none, .phase .mode, .str "A"⟩⟩], names := ["declcapture-hook/mode/a"] }
    r.declare {} v = (.error (.capture (hook.notCallable .mode)), r) ∧
      r.declare { sortForest := some SiblingOrder.refusing.less } v =
        (.error (.badValue "predicate failed"), r) := by
  intro f v hook r
  let first : HookRegistration := ⟨.str "a", f, .phase .mode, .str "A"⟩
  constructor
  · apply ((declare_all_or_nothing {} v r).1 _ _).mpr
    have hcompile : ∃ c, Compile.forest {} v = .ok c ∧ c.hooks = [first] ++ hook :: [] :=
      ⟨_, rfl, rfl⟩
    obtain ⟨c, hc, hsplit⟩ := hcompile
    exact ⟨rfl, .callback hc hsplit (by simp [first, f, Value.isCallable]) rfl rfl⟩
  · apply ((declare_all_or_nothing _ v r).1 _ _).mpr
    exact ⟨rfl, .compilation rfl⟩

end Registry

end CaptureForest
