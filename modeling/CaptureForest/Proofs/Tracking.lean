import CaptureForest.Proofs.Batch
import CaptureForest.Proofs.History

/-!
# Registries and their histories

A registry agrees with a history if its handlers are
those of the pairs that are live by the history, in the order in which the pairs
became live, and the names are those that are known by the history.
`Registry.Tracks` states this agreement, and the lemmas show for a registration,
a batch, a removal and a clearing that it is preserved.
-/

namespace CaptureForest

namespace Holding

def pair (x : Holding) : HookPair := x.hook.pair

def handler (x : Holding) : Handler := x.hook.handler

/-- What becomes of a holding when a hook is registered: it keeps its time, and
takes the hook if that is for its pair. -/
def renew (hook : KeyedHook) (x : Holding) : Holding :=
  if x.pair = hook.pair then ⟨x.since, hook⟩ else x

@[simp] theorem renew_since (hook : KeyedHook) (x : Holding) :
    (x.renew hook).since = x.since := by
  unfold renew
  split <;> rfl

@[simp] theorem renew_pair (hook : KeyedHook) (x : Holding) :
    (x.renew hook).pair = x.pair := by
  unfold renew
  split
  · exact (by assumption : x.pair = hook.pair).symm
  · rfl

theorem renew_of_eq {hook : KeyedHook} {x : Holding} (h : x.pair = hook.pair) :
    x.renew hook = ⟨x.since, hook⟩ := by
  rw [renew, if_pos h]

theorem renew_of_ne {hook : KeyedHook} {x : Holding} (h : x.pair ≠ hook.pair) :
    x.renew hook = x := by
  rw [renew, if_neg h]

end Holding

/-! ### Histories -/

namespace History

variable {history : History} {pair : HookPair}

theorem pair_of_holding {x : Holding} (h : history.holding pair = some x) :
    x.pair = pair := by
  induction history with
  | nil => cases h
  | cons event past ih =>
      cases event with
      | registered hook =>
          rw [holding] at h
          split at h
          · obtain rfl := Option.some.inj h
            assumption
          · exact ih h
      | removed isSelected forget =>
          rw [holding] at h
          split at h
          · cases h
          · exact ih h
      | cleared => cases h

theorem since_lt_length {x : Holding} (h : history.holding pair = some x) :
    x.since < history.length := by
  induction history generalizing x with
  | nil => cases h
  | cons event past ih =>
      rw [List.length_cons]
      cases event with
      | registered hook =>
          rw [holding] at h
          split at h
          · obtain rfl := Option.some.inj h
            cases hpast : holding past pair with
            | none => simp
            | some y =>
                have hy := ih hpast
                simp only [Option.map_some, Option.getD_some]
                omega
          · exact Nat.lt_succ_of_lt (ih h)
      | removed isSelected forget =>
          rw [holding] at h
          split at h
          · cases h
          · exact Nat.lt_succ_of_lt (ih h)
      | cleared => cases h

theorem isKnown_of_isLive (h : history.isLive pair = true) : history.isKnown pair = true := by
  induction history with
  | nil => cases h
  | cons event past ih =>
      cases event with
      | registered hook =>
          by_cases hpair : hook.pair = pair
          · simp [isKnown, hpair]
          · have hpast : isLive past pair = true := by
              simpa [isLive, holding, hpair] using h
            simp [isKnown, ih hpast]
      | removed isSelected forget =>
          by_cases hselected : isSelected pair = true
          · simp [isLive, holding, hselected] at h
          · have hpast : isLive past pair = true := by
              simpa [isLive, holding, hselected] using h
            simp [isKnown, ih hpast, hselected]
      | cleared => cases h

end History

/-! ### Handlers -/

theorem KeyedHook.sharesSlot_iff (a b : KeyedHook) :
    a.handler.sharesSlot b.handler = true ↔ a.pair = b.pair := by
  unfold Handler.sharesSlot
  rw [Bool.and_eq_true, beq_iff_eq, beq_iff_eq]
  constructor
  · rintro ⟨-, hname⟩
    exact HookPair.handlerName_injective hname
  · intro h
    exact ⟨congrArg HookPair.phase h, congrArg HookPair.handlerName h⟩

namespace Registry

theorem place_of_forall_ne {hook : KeyedHook} {live : List Holding}
    (h : ∀ x ∈ live, x.pair ≠ hook.pair) :
    place hook.handler (live.map (·.handler)) = live.map (·.handler) ++ [hook.handler] := by
  induction live with
  | nil => rfl
  | cons x rest ih =>
      have hx : ¬ x.handler.sharesSlot hook.handler = true := by
        rw [Holding.handler, KeyedHook.sharesSlot_iff]
        exact h x List.mem_cons_self
      rw [List.map_cons, place, if_neg hx, ih fun y hy => h y (List.mem_cons_of_mem _ hy),
        List.cons_append]

theorem place_of_mem {hook : KeyedHook} {live : List Holding}
    (hpairs : (live.map (·.pair)).Nodup) {x : Holding} (hx : x ∈ live)
    (hpair : x.pair = hook.pair) :
    place hook.handler (live.map (·.handler)) =
      (live.map (·.renew hook)).map (·.handler) := by
  induction live with
  | nil => cases hx
  | cons y rest ih =>
      rw [List.map_cons, List.nodup_cons] at hpairs
      obtain ⟨hy, hrest⟩ := hpairs
      by_cases hshares : y.pair = hook.pair
      -- the search ends here, and no later holding is for the pair
      · have hkept : rest.map (·.renew hook) = rest := by
          rw [List.map_congr_left (g := id), List.map_id]
          intro z hz
          refine Holding.renew_of_ne fun hz' => hy ?_
          rw [hshares, ← hz']
          exact List.mem_map_of_mem hz
        have hslot := (KeyedHook.sharesSlot_iff y.hook hook).mpr hshares
        rw [List.map_cons, List.map_cons, List.map_cons, hkept, Holding.renew_of_eq hshares,
          place, Holding.handler, if_pos hslot]
        rfl
      · have hslot : ¬ y.handler.sharesSlot hook.handler = true := by
          rw [Holding.handler, KeyedHook.sharesSlot_iff]
          exact hshares
        have hxrest : x ∈ rest := by
          rcases List.mem_cons.mp hx with rfl | hxrest
          · exact absurd hpair hshares
          · exact hxrest
        rw [List.map_cons, List.map_cons, List.map_cons, Holding.renew_of_ne hshares, place,
          if_neg hslot, ih hrest hxrest]

theorem mem_addName (name : String) (names : List String) (other : String) :
    other ∈ addName name names ↔ other = name ∨ other ∈ names := by
  unfold addName
  split
  · rename_i hcontains
    constructor
    · exact .inr
    · rintro (rfl | h)
      · exact List.contains_iff_mem.mp hcontains
      · exact h
  · rw [List.mem_append, List.mem_singleton, or_comm]

/-! ### The invariant -/

/-- The live pairs of a history are those of a list, in the order in which they
became live, and a registry has their handlers and the known names. -/
structure Tracks (r : Registry) (history : History) (live : List Holding) : Prop where
  handlers : r.handlers = live.map (·.handler)
  mem : ∀ x, x ∈ live ↔ history.holding x.pair = some x
  order : live.Pairwise (·.since < ·.since)
  names : ∀ name, name ∈ r.names ↔
    ∃ pair, history.isKnown pair = true ∧ pair.handlerName = name

namespace Tracks

variable {r : Registry} {history : History} {live : List Holding}

theorem eq_of_pair (h : r.Tracks history live) {x y : Holding} (hx : x ∈ live) (hy : y ∈ live)
    (hpair : x.pair = y.pair) : x = y := by
  have hheld := (h.mem x).mp hx
  rw [hpair, (h.mem y).mp hy] at hheld
  exact (Option.some.inj hheld).symm

theorem nodup_pairs (h : r.Tracks history live) : (live.map (·.pair)).Nodup := by
  rw [List.Nodup, List.pairwise_map]
  refine h.order.imp_of_mem ?_
  intro x y hx hy hsince hpair
  rw [h.eq_of_pair hx hy hpair] at hsince
  exact Nat.lt_irrefl _ hsince

theorem holding_eq_some_iff (h : r.Tracks history live) (pair : HookPair) (x : Holding) :
    history.holding pair = some x ↔ x ∈ live ∧ x.pair = pair := by
  constructor
  · intro hheld
    have hpair := History.pair_of_holding hheld
    exact ⟨(h.mem x).mpr (hpair ▸ hheld), hpair⟩
  · rintro ⟨hx, rfl⟩
    exact (h.mem x).mp hx

theorem isLive_iff (h : r.Tracks history live) (pair : HookPair) :
    history.isLive pair = true ↔ ∃ x ∈ live, x.pair = pair := by
  rw [History.isLive, Option.isSome_iff_exists]
  exact exists_congr fun x => h.holding_eq_some_iff pair x

theorem initial : Tracks {} [] [] where
  handlers := rfl
  mem := fun x => by simp [History.holding]
  order := List.Pairwise.nil
  names := fun name => by simp [History.isKnown]

theorem cleared (history : History) : Registry.clear.Tracks (.cleared :: history) [] where
  handlers := rfl
  mem := fun x => by simp [History.holding]
  order := List.Pairwise.nil
  names := fun name => by simp [History.isKnown, Registry.clear]

theorem names_registered (h : r.Tracks history live) (hook : KeyedHook) (name : String) :
    name ∈ (r.insert hook.handler).names ↔
      ∃ pair, History.isKnown (.registered hook :: history) pair = true ∧
        pair.handlerName = name := by
  have hknown : ∀ pair, History.isKnown (.registered hook :: history) pair = true ↔
      hook.pair = pair ∨ history.isKnown pair = true := by
    intro pair
    rw [History.isKnown, Bool.or_eq_true, decide_eq_true_iff]
  simp only [hknown, or_and_right, exists_or, exists_eq_left', ← h.names]
  rw [Registry.insert, mem_addName, eq_comm]
  rfl

/-- A pair that is not live becomes the last of the live pairs. -/
theorem registered_of_not_live (h : r.Tracks history live) {hook : KeyedHook}
    (hnone : history.holding hook.pair = none) :
    (r.insert hook.handler).Tracks (.registered hook :: history)
      (live ++ [⟨history.length, hook⟩]) where
  handlers := by
    have hne : ∀ x ∈ live, x.pair ≠ hook.pair := by
      intro x hx hpair
      rw [← hpair, (h.mem x).mp hx] at hnone
      cases hnone
    rw [Registry.insert, h.handlers, place_of_forall_ne hne, List.map_append]
    rfl
  mem := by
    intro x
    rw [List.mem_append, List.mem_singleton, h.mem, History.holding]
    by_cases hpair : hook.pair = x.pair
    · rw [if_pos hpair, ← hpair, hnone]
      simp [eq_comm]
    · rw [if_neg hpair]
      constructor
      · rintro (hx | rfl)
        · exact hx
        · exact absurd rfl hpair
      · exact .inl
  order := by
    rw [List.pairwise_append]
    refine ⟨h.order, List.pairwise_singleton _ _, ?_⟩
    intro x hx y hy
    rw [List.mem_singleton.mp hy]
    exact History.since_lt_length ((h.mem x).mp hx)
  names := h.names_registered hook

/-- A pair that is live keeps its place and takes the new registration. -/
theorem registered_of_live (h : r.Tracks history live) {hook : KeyedHook} {y : Holding}
    (hsome : history.holding hook.pair = some y) :
    (r.insert hook.handler).Tracks (.registered hook :: history)
      (live.map (·.renew hook)) where
  handlers := by
    obtain ⟨hy, hpair⟩ := (h.holding_eq_some_iff _ _).mp hsome
    rw [Registry.insert, h.handlers, place_of_mem h.nodup_pairs hy hpair]
  mem := by
    intro x
    rw [List.mem_map, History.holding]
    by_cases hpair : hook.pair = x.pair
    -- only `y` is for the pair of the hook, and it is renewed; the others stay as they are
    · rw [if_pos hpair, ← hpair, hsome, Option.map_some, Option.getD_some, Option.some.injEq]
      constructor
      · rintro ⟨z, hz, rfl⟩
        rw [Holding.renew_pair] at hpair
        have hzy := (h.mem z).mp hz
        rw [← hpair, hsome] at hzy
        obtain rfl := Option.some.inj hzy
        exact (Holding.renew_of_eq hpair.symm).symm
      · rintro rfl
        obtain ⟨hy, hpair⟩ := (h.holding_eq_some_iff _ _).mp hsome
        exact ⟨y, hy, Holding.renew_of_eq hpair⟩
    · rw [if_neg hpair, ← h.mem]
      constructor
      · rintro ⟨z, hz, rfl⟩
        rw [Holding.renew_pair] at hpair
        rw [Holding.renew_of_ne (Ne.symm hpair)]
        exact hz
      · intro hx
        exact ⟨x, hx, Holding.renew_of_ne (Ne.symm hpair)⟩
  order := by
    rw [List.pairwise_map]
    simpa only [Holding.renew_since] using h.order
  names := h.names_registered hook

theorem exists_registered (h : r.Tracks history live) (hook : KeyedHook) :
    ∃ live', (r.insert hook.handler).Tracks (.registered hook :: history) live' := by
  cases hheld : history.holding hook.pair with
  | none => exact ⟨_, h.registered_of_not_live hheld⟩
  | some y => exact ⟨_, h.registered_of_live hheld⟩

section Removed

variable {isSelected : HookPair → Bool} {gone : List Handler}
  (hgone : ∀ handler, handler ∈ gone ↔
    ∃ x ∈ live, isSelected x.pair = true ∧ x.handler = handler)

include hgone

theorem any_sharesSlot_iff {x : Holding} (hx : x ∈ live) :
    gone.any x.handler.sharesSlot = true ↔ isSelected x.pair = true := by
  rw [List.any_eq_true]
  constructor
  · rintro ⟨handler, hhandler, hslot⟩
    obtain ⟨y, -, hselected, rfl⟩ := (hgone handler).mp hhandler
    have hpair : x.pair = y.pair := (KeyedHook.sharesSlot_iff _ _).mp hslot
    rw [hpair]
    exact hselected
  · intro hselected
    exact ⟨x.handler, (hgone _).mpr ⟨x, hx, hselected, rfl⟩,
      (KeyedHook.sharesSlot_iff _ _).mpr rfl⟩

theorem any_name_iff (h : r.Tracks history live) (pair : HookPair) :
    gone.any (·.name == pair.handlerName) = true ↔
      isSelected pair = true ∧ history.isLive pair = true := by
  rw [List.any_eq_true, h.isLive_iff]
  constructor
  · rintro ⟨handler, hhandler, hname⟩
    obtain ⟨x, hx, hselected, rfl⟩ := (hgone handler).mp hhandler
    obtain rfl : x.pair = pair := HookPair.handlerName_injective (beq_iff_eq.mp hname)
    exact ⟨hselected, x, hx, rfl⟩
  · rintro ⟨hselected, x, hx, rfl⟩
    exact ⟨x.handler, (hgone _).mpr ⟨x, hx, hselected, rfl⟩, beq_self_eq_true _⟩

theorem names_forgotten (h : r.Tracks history live) (name : String) :
    name ∈ (r.drop gone true).names ↔
      ∃ pair, History.isKnown (.removed isSelected true :: history) pair = true ∧
        pair.handlerName = name := by
  have hkept : ∀ pair : HookPair, (!gone.any (·.name == pair.handlerName)) =
      !(true && isSelected pair && history.isLive pair) := by
    intro pair
    rw [Bool.not_inj_iff, Bool.eq_iff_iff, any_name_iff hgone h, Bool.true_and,
      Bool.and_eq_true]
  simp only [drop, if_true, List.mem_filter, h.names, History.isKnown, Bool.and_eq_true]
  constructor
  · rintro ⟨⟨pair, hknown, rfl⟩, hnot⟩
    exact ⟨pair, ⟨hknown, (hkept pair).symm.trans hnot⟩, rfl⟩
  · rintro ⟨pair, ⟨hknown, hnot⟩, rfl⟩
    exact ⟨⟨pair, hknown, rfl⟩, (hkept pair).trans hnot⟩

/-- Removing the handlers of selected pairs leaves those of the other live pairs in
their order. -/
theorem removed (h : r.Tracks history live) (forget : Bool) :
    (r.drop gone forget).Tracks (.removed isSelected forget :: history)
      (live.filter fun x => !isSelected x.pair) where
  handlers := by
    rw [Registry.drop, h.handlers, List.filter_map]
    refine congrArg _ (List.filter_congr fun x hx => ?_)
    rw [Function.comp_apply, Bool.not_inj_iff, Bool.eq_iff_iff]
    exact any_sharesSlot_iff hgone hx
  mem := by
    intro x
    rw [List.mem_filter, h.mem, History.holding]
    cases isSelected x.pair <;> simp
  order := h.order.filter _
  names := by
    intro name
    cases forget with
    | true => exact names_forgotten hgone h name
    | false => simp [Registry.drop, History.isKnown, h.names]

end Removed

theorem removed_none (h : r.Tracks history live) {isSelected : HookPair → Bool}
    (hnone : ∀ pair, isSelected pair = false) (forget : Bool) :
    r.Tracks (.removed isSelected forget :: history) live where
  handlers := h.handlers
  mem := fun x => by simp [History.holding, hnone, h.mem]
  order := h.order
  names := fun name => by simp [History.isKnown, hnone, h.names]

end Tracks

/-! ### Registering -/

end Registry

namespace KeyedHook

theorem hasMember (hook : KeyedHook) : hook.registration.HasMember := ⟨hook.pair.phase, rfl⟩

theorem isAccepted_iff (hook : KeyedHook) :
    hook.registration.IsAccepted ↔ hook.callback.isCallable = true := by
  constructor
  · exact (·.callback)
  · exact fun hcallback => ⟨⟨_, _, rfl, HookPhase.ofName?_word _⟩, hcallback⟩

theorem registration_handler (hook : KeyedHook) :
    hook.registration.handler hook.pair.phase = hook.handler := by
  rw [HookRegistration.handler, registration, HookPair.nameFor_str]
  rfl

end KeyedHook

namespace Registry

theorem storable_keyed (hooks : List KeyedHook) :
    storable (hooks.map (·.registration)) = hooks.map (·.handler) := by
  induction hooks with
  | nil => rfl
  | cons hook rest ih =>
      rw [List.map_cons, List.map_cons, storable_cons_of_member rfl, ih,
        hook.registration_handler]

theorem register_keyed {hook : KeyedHook} (h : hook.callback.isCallable = true) (r : Registry) :
    r.register hook.registration = .ok (hook.handler.name, r.insert hook.handler) := by
  have hphase : hook.registration.phase = .phase hook.pair.phase := rfl
  obtain ⟨p, hp⟩ := (hook.registration.exists_check_eq_ok_iff).mpr (hook.isAccepted_iff.mpr h)
  obtain rfl := HookRegistration.check_of_member hphase hp
  simp only [register, hp, store_of_member hphase, hook.registration_handler]

theorem register_keyed_refused {hook : KeyedHook} (h : ¬ hook.callback.isCallable = true)
    (r : Registry) : ∃ e, r.register hook.registration = .error e := by
  unfold register
  cases hcheck : hook.registration.check with
  | error e => exact ⟨e, rfl⟩
  | ok p =>
      have haccepted := (hook.registration.exists_check_eq_ok_iff).mp ⟨p, hcheck⟩
      exact absurd (hook.isAccepted_iff.mp haccepted) h

theorem registerAll_keyed {hooks : List KeyedHook}
    (h : ∀ hook ∈ hooks, hook.callback.isCallable = true) (r : Registry) :
    r.registerAll (hooks.map (·.registration)) =
      (.ok (hooks.map (·.handler.name)), r.insertAll (hooks.map (·.handler))) := by
  have haccepted : ∀ x ∈ hooks.map (·.registration), x.IsAccepted := by
    rw [List.forall_mem_map]
    exact fun hook hhook => hook.isAccepted_iff.mpr (h hook hhook)
  have hmembers : ∀ x ∈ hooks.map (·.registration), x.HasMember := by
    rw [List.forall_mem_map]
    exact fun hook _ => hook.hasMember
  rw [registerAll_of_members haccepted hmembers, storable_keyed, List.map_map]
  rfl

theorem registerAll_keyed_refused {hooks : List KeyedHook}
    (h : ¬ ∀ hook ∈ hooks, hook.callback.isCallable = true) (r : Registry) :
    ∃ e, r.registerAll (hooks.map (·.registration)) = (.error e, r) := by
  have hrefused : ¬ ∀ x ∈ hooks.map (·.registration), x.IsAccepted := by
    rw [List.forall_mem_map]
    exact fun hall => h fun hook hhook => hook.isAccepted_iff.mp (hall hook hhook)
  obtain ⟨e, he⟩ := exists_failsFirst hrefused
  exact ⟨e, registerAll_of_refused he r⟩

theorem Tracks.exists_recorded {r : Registry} {history : History} {live : List Holding}
    (h : r.Tracks history live) (hooks : List KeyedHook) :
    ∃ live', (r.insertAll (hooks.map (·.handler))).Tracks (Run.record hooks history) live' := by
  induction hooks generalizing r history live with
  | nil => exact ⟨live, h⟩
  | cons hook rest ih =>
      obtain ⟨live', h'⟩ := h.exists_registered hook
      exact ih h'

end Registry

end CaptureForest
