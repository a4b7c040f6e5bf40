import CaptureForest.Proofs.FirstFailure
import CaptureForest.Registry.Basic

/-!
# Registering a batch

A batch of registrations is checked as a whole before the first of them is
stored, so a batch that is refused changes nothing.  The check accepts a phase
that is named by a mere word, but the name of a handler can be made only of a
phase that is a member of the closed set.  A batch that passes the check
therefore still fails at its first registration with a mere word, and all that
come before it stay in the registry.
-/

namespace CaptureForest

namespace HookRegistration

/-- The registration names a known phase, as a member or by a word, and its
callback can be called. -/
structure IsAccepted (registration : HookRegistration) : Prop where
  phase : ∃ word p, registration.phase.text? = some word ∧ HookPhase.ofName? word = some p
  callback : registration.callback.isCallable = true

/-- The phase is a member of the closed set and no mere word for one. -/
def HasMember (registration : HookRegistration) : Prop := ∃ p, registration.phase = .phase p

/-- The handler of a registration whose phase is the given member. -/
def handler (registration : HookRegistration) (p : HookPhase) : Handler :=
  ⟨nameFor p registration.key, p, registration⟩

end HookRegistration

namespace HookPhase

theorem resolve_eq_ok_iff (v : Value) (p : HookPhase) :
    resolve v = .ok p ↔ ∃ word, v.text? = some word ∧ ofName? word = some p := by
  unfold resolve
  rw [← Option.bind_eq_some_iff]
  cases v.text?.bind ofName? <;> simp

@[simp] theorem resolve_phase (p : HookPhase) : resolve (.phase p) = .ok p :=
  (resolve_eq_ok_iff _ p).mpr ⟨p.word, rfl, ofName?_word p⟩

end HookPhase

namespace HookRegistration

theorem exists_check_eq_ok_iff (registration : HookRegistration) :
    (∃ p, registration.check = .ok p) ↔ registration.IsAccepted := by
  constructor
  · rintro ⟨p, hp⟩
    unfold check at hp
    cases hphase : HookPhase.resolve registration.phase with
    | error e => simp [hphase] at hp
    | ok q =>
        obtain ⟨word, hword, hq⟩ := (HookPhase.resolve_eq_ok_iff _ q).mp hphase
        refine ⟨⟨word, q, hword, hq⟩, ?_⟩
        by_contra hcallback
        simp [hphase, hcallback] at hp
  · rintro ⟨⟨word, p, hword, hp⟩, hcallback⟩
    have hphase := (HookPhase.resolve_eq_ok_iff _ p).mpr ⟨word, hword, hp⟩
    exact ⟨p, by simp [check, hphase, hcallback]⟩

theorem check_of_member {registration : HookRegistration} {p q : HookPhase}
    (hmember : registration.phase = .phase p) (h : registration.check = .ok q) : q = p := by
  unfold check at h
  rw [hmember, HookPhase.resolve_phase] at h
  simp only at h
  split at h
  · exact (Except.ok.inj h).symm
  · cases h

end HookRegistration

namespace Registry

/-- Inserts handlers one after another. -/
def insertAll (handlers : List Handler) (r : Registry) : Registry :=
  handlers.foldl (fun r h => r.insert h) r

/-- The handlers that a batch puts into a registry if it is not refused: those of
the registrations before the first whose phase is a mere word. -/
def storable : List HookRegistration → List Handler
  | [] => []
  | registration :: rest =>
    match registration.phase with
    | .phase p => registration.handler p :: storable rest
    | _ => []

theorem storable_cons_of_member {registration : HookRegistration} {p : HookPhase}
    (h : registration.phase = .phase p) (rest : List HookRegistration) :
    storable (registration :: rest) = registration.handler p :: storable rest := by
  rw [storable, h]

theorem storable_cons_of_not_hasMember {registration : HookRegistration}
    (h : ¬ registration.HasMember) (rest : List HookRegistration) :
    storable (registration :: rest) = [] := by
  unfold storable
  split
  · rename_i p hp
    exact absurd ⟨p, hp⟩ h
  · rfl

theorem storable_append {before : List HookRegistration} (h : ∀ x ∈ before, x.HasMember)
    (rest : List HookRegistration) :
    storable (before ++ rest) = storable before ++ storable rest := by
  induction before with
  | nil => rfl
  | cons registration before ih =>
      obtain ⟨p, hp⟩ := h registration List.mem_cons_self
      rw [List.cons_append, storable_cons_of_member hp, storable_cons_of_member hp,
        ih fun x hx => h x (List.mem_cons_of_mem _ hx), List.cons_append]

/-! ### The check -/

theorem checkAll_eq_mapM (batch : List HookRegistration) :
    checkAll batch = batch.mapM fun x => x.check.map fun p => (p, x) := by
  induction batch with
  | nil => rfl
  | cons registration rest ih =>
      rw [checkAll, List.mapM_cons, ← ih]
      cases registration.check with
      | error e => rfl
      | ok p => cases checkAll rest <;> rfl

theorem exists_checkAll_eq_ok_iff (batch : List HookRegistration) :
    (∃ checked, checkAll batch = .ok checked) ↔ ∀ x ∈ batch, x.IsAccepted := by
  rw [checkAll_eq_mapM, exists_mapM_eq_ok_iff]
  refine forall₂_congr fun x _ => ?_
  rw [← x.exists_check_eq_ok_iff]
  cases x.check <;> simp [Except.map]

theorem checkAll_eq_error_iff (batch : List HookRegistration) (e : Fault) :
    checkAll batch = .error e ↔ FailsFirst HookRegistration.check batch e := by
  have hcheck : ∀ x : HookRegistration,
      (x.check.map fun p => (p, x)) = .error e ↔ x.check = .error e := by
    intro x
    cases x.check <;> simp [Except.map]
  have hok : ∀ x : HookRegistration,
      (∃ b, (x.check.map fun p => (p, x)) = .ok b) ↔ ∃ p, x.check = .ok p := by
    intro x
    cases x.check <;> simp [Except.map]
  rw [checkAll_eq_mapM, mapM_eq_error_iff]
  simp only [FailsFirst, hcheck, hok]

theorem checkAll_cons_eq_ok {registration : HookRegistration} {rest : List HookRegistration}
    {checked : List (HookPhase × HookRegistration)}
    (h : checkAll (registration :: rest) = .ok checked) :
    ∃ p others, registration.check = .ok p ∧ checkAll rest = .ok others ∧
      checked = (p, registration) :: others := by
  rw [checkAll] at h
  cases hcheck : registration.check with
  | error e => simp [hcheck] at h
  | ok p =>
      cases hrest : checkAll rest with
      | error e => simp [hcheck, hrest] at h
      | ok others =>
          simp only [hcheck, hrest, Except.ok.injEq] at h
          exact ⟨p, others, rfl, rfl, h.symm⟩

theorem exists_failsFirst {batch : List HookRegistration} (h : ¬ ∀ x ∈ batch, x.IsAccepted) :
    ∃ e, FailsFirst HookRegistration.check batch e := by
  cases hchecked : checkAll batch with
  | ok checked => exact absurd ((exists_checkAll_eq_ok_iff batch).mp ⟨checked, hchecked⟩) h
  | error e => exact ⟨e, (checkAll_eq_error_iff batch e).mp hchecked⟩

/-! ### The store -/

theorem store_of_member {registration : HookRegistration} {p : HookPhase}
    (h : registration.phase = .phase p) (r : Registry) :
    r.store p registration =
      .ok ((registration.handler p).name, r.insert (registration.handler p)) := by
  simp [store, HookRegistration.handlerName, HookRegistration.member, h,
    HookRegistration.handler]

theorem store_of_not_hasMember {registration : HookRegistration}
    (h : ¬ registration.HasMember) (p : HookPhase) (r : Registry) :
    r.store p registration = .error (.ofKind .missingAttribute) := by
  have hmember : registration.member = .error (.ofKind .missingAttribute) := by
    unfold HookRegistration.member
    split
    · rename_i q hq
      exact absurd ⟨q, hq⟩ h
    · rfl
  simp [store, HookRegistration.handlerName, hmember]

/-- A batch of members is stored to its end. -/
theorem storeAll_of_members {batch : List HookRegistration}
    {checked : List (HookPhase × HookRegistration)} (h : checkAll batch = .ok checked)
    (hmembers : ∀ x ∈ batch, x.HasMember) (r : Registry) :
    r.storeAll checked =
      (.ok ((storable batch).map (·.name)), r.insertAll (storable batch)) := by
  induction batch generalizing checked r with
  | nil =>
      obtain rfl := Except.ok.inj h
      rfl
  | cons registration rest ih =>
      obtain ⟨p, others, hp, hothers, rfl⟩ := checkAll_cons_eq_ok h
      obtain ⟨q, hq⟩ := hmembers registration List.mem_cons_self
      obtain rfl := HookRegistration.check_of_member hq hp
      have hrest := ih hothers (fun x hx => hmembers x (List.mem_cons_of_mem _ hx))
        (r.insert (registration.handler p))
      rw [storable_cons_of_member hq, storeAll, store_of_member hq]
      simp only [hrest]
      rfl

/-- Storing a batch ends at the first registration with a mere word, and keeps
what was stored before it. -/
theorem storeAll_of_word {batch : List HookRegistration}
    {checked : List (HookPhase × HookRegistration)} (h : checkAll batch = .ok checked)
    (hword : ¬ ∀ x ∈ batch, x.HasMember) (r : Registry) :
    r.storeAll checked =
      (.error (.ofKind .missingAttribute), r.insertAll (storable batch)) := by
  induction batch generalizing checked r with
  | nil => exact absurd (by simp) hword
  | cons registration rest ih =>
      obtain ⟨p, others, hp, hothers, rfl⟩ := checkAll_cons_eq_ok h
      by_cases hmember : registration.HasMember
      · have hrest : ¬ ∀ x ∈ rest, x.HasMember := by
          intro hall
          exact hword (List.forall_mem_cons.mpr ⟨hmember, hall⟩)
        obtain ⟨q, hq⟩ := hmember
        obtain rfl := HookRegistration.check_of_member hq hp
        rw [storable_cons_of_member hq, storeAll, store_of_member hq]
        simp only [ih hothers hrest (r.insert (registration.handler p))]
        rfl
      · rw [storable_cons_of_not_hasMember hmember, storeAll, store_of_not_hasMember hmember]
        rfl

/-! ### Whole batches -/

variable {batch : List HookRegistration}

/-- A batch that is refused changes nothing. -/
theorem registerAll_of_refused {e : Fault} (h : FailsFirst HookRegistration.check batch e)
    (r : Registry) : r.registerAll batch = (.error e, r) := by
  rw [← checkAll_eq_error_iff] at h
  simp [registerAll, h]

theorem registerAll_of_members (haccepted : ∀ x ∈ batch, x.IsAccepted)
    (hmembers : ∀ x ∈ batch, x.HasMember) (r : Registry) :
    r.registerAll batch =
      (.ok ((storable batch).map (·.name)), r.insertAll (storable batch)) := by
  obtain ⟨checked, hchecked⟩ := (exists_checkAll_eq_ok_iff batch).mpr haccepted
  simp only [registerAll, hchecked, storeAll_of_members hchecked hmembers]

theorem registerAll_of_word (haccepted : ∀ x ∈ batch, x.IsAccepted)
    (hword : ¬ ∀ x ∈ batch, x.HasMember) (r : Registry) :
    r.registerAll batch =
      (.error (.ofKind .missingAttribute), r.insertAll (storable batch)) := by
  obtain ⟨checked, hchecked⟩ := (exists_checkAll_eq_ok_iff batch).mpr haccepted
  simp only [registerAll, hchecked, storeAll_of_word hchecked hword]

/-- The registrations before the first with a mere word. -/
theorem exists_first_word (hword : ¬ ∀ x ∈ batch, x.HasMember) :
    ∃ before registration after, batch = before ++ registration :: after ∧
      (∀ x ∈ before, x.HasMember) ∧ ¬ registration.HasMember := by
  induction batch with
  | nil => exact absurd (by simp) hword
  | cons x rest ih =>
      by_cases hx : x.HasMember
      · have hrest : ¬ ∀ y ∈ rest, y.HasMember := by
          intro hall
          exact hword (List.forall_mem_cons.mpr ⟨hx, hall⟩)
        obtain ⟨before, registration, after, rfl, hbefore, hregistration⟩ := ih hrest
        exact ⟨x :: before, registration, after, rfl,
          List.forall_mem_cons.mpr ⟨hx, hbefore⟩, hregistration⟩
      · exact ⟨[], x, rest, rfl, by simp, hx⟩

/-- A batch that fails was refused and has changed nothing, or it passed the
check and has registered what comes before its first mere word for a phase.  So
it has changed nothing if every registration that would be accepted names its
phase by a member. -/
theorem failed_batch_cases {r r' : Registry} {e : Fault}
    (h : r.registerAll batch = (.error e, r')) :
    (FailsFirst HookRegistration.check batch e ∧ r' = r ∨
      e = .ofKind .missingAttribute ∧ (∀ x ∈ batch, x.IsAccepted) ∧
        ∃ before registration after, batch = before ++ registration :: after ∧
          (∀ x ∈ before, x.HasMember) ∧ ¬ registration.HasMember ∧
            ∃ names, r.registerAll before = (.ok names, r')) ∧
    ((∀ x ∈ batch, x.IsAccepted → x.HasMember) → r' = r) := by
  by_cases haccepted : ∀ x ∈ batch, x.IsAccepted
  · have hword : ¬ ∀ x ∈ batch, x.HasMember := by
      intro hmembers
      rw [registerAll_of_members haccepted hmembers] at h
      cases h
    rw [registerAll_of_word haccepted hword, Prod.mk.injEq, Except.error.injEq] at h
    obtain ⟨rfl, rfl⟩ := h
    refine ⟨.inr ⟨rfl, haccepted, ?_⟩, ?_⟩
    · obtain ⟨before, registration, after, rfl, hbefore, hregistration⟩ :=
        exists_first_word hword
      refine ⟨before, registration, after, rfl, hbefore, hregistration,
        (storable before).map (·.name), ?_⟩
      rw [storable_append hbefore, storable_cons_of_not_hasMember hregistration,
        List.append_nil]
      exact registerAll_of_members
        (fun x hx => haccepted x (List.mem_append_left _ hx)) hbefore r
    · intro hmembers
      exact absurd (fun x hx => hmembers x hx (haccepted x hx)) hword
  · obtain ⟨f, hf⟩ := exists_failsFirst haccepted
    rw [registerAll_of_refused hf, Prod.mk.injEq, Except.error.injEq] at h
    obtain ⟨rfl, rfl⟩ := h
    exact ⟨.inl ⟨hf, rfl⟩, fun _ => rfl⟩

/-- A batch whose second callback cannot be called. -/
theorem failed_batch_cases_of_no_callback :
    let f : Value := .callable (.function "cb" "f")
    let batch : List HookRegistration := [
      ⟨.str "a", f, .phase .mode, .str "A"⟩,
      ⟨.str "b", .str "g", .phase .afterFinalize, .str "B"⟩]
    let r : Registry := { handlers := [⟨"declcapture-hook/mode/a", .mode,
      ⟨.str "a", .none, .phase .mode, .str "A"⟩⟩], names := ["declcapture-hook/mode/a"] }
    (∃ e, (r.registerAll batch).1 = .error e) ∧ (r.registerAll batch).2 = r := by
  intro f batch r
  refine ⟨⟨_, rfl⟩, ?_⟩
  apply (@failed_batch_cases batch r _ _ rfl).2
  intro x hx _
  simp only [batch, List.mem_cons, List.not_mem_nil, or_false] at hx
  rcases hx with rfl | rfl
  · exact ⟨_, rfl⟩
  · exact ⟨_, rfl⟩

/-- A batch that names its second phase by a mere word fails and leaves its first
registration behind. -/
theorem not_unchanged_of_word :
    let f : Value := .callable (.function "cb" "f")
    let batch : List HookRegistration := [
      ⟨.str "a", f, .phase .mode, .str "A"⟩,
      ⟨.str "b", f, .str "mode", .str "B"⟩]
    let r : Registry := {}
    (∃ e, (r.registerAll batch).1 = .error e) ∧ (r.registerAll batch).2 ≠ r ∧
      (r.registerAll batch).2.size = 1 ∧
        (r.registerAll batch).2.names = ["declcapture-hook/mode/a"] := by
  intro f batch r
  have hsize : (r.registerAll batch).2.size = 1 := rfl
  refine ⟨⟨_, rfl⟩, ?_, hsize, rfl⟩
  intro h
  rw [h] at hsize
  cases hsize

end Registry

end CaptureForest
