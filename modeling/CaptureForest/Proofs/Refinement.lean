import CaptureForest.Proofs.Deleting
import CaptureForest.Proofs.Signals
import Mathlib.Data.List.Nodup

/-!
# Registries as maps

Each operation on a registry that agrees with its history leaves one that agrees
with the history it goes on with, and so does every run from the empty registry.
A registry is therefore a map from pairs of a phase and a key to their last
registrations, which are listed phase by phase in the order in which the pairs
became live.
-/

namespace CaptureForest

namespace Run

def IsTracked (s : Run) : Prop := ∃ live, s.registry.Tracks s.history live

variable {s : Run}

theorem IsTracked.register (h : s.IsTracked) (hook : KeyedHook) :
    (s.register hook).IsTracked := by
  obtain ⟨live, htracks⟩ := h
  unfold Run.register IsTracked
  by_cases hcallable : hook.callback.isCallable = true
  · rw [Registry.register_keyed hcallable, if_pos hcallable]
    exact htracks.exists_registered hook
  · obtain ⟨e, he⟩ := Registry.register_keyed_refused hcallable s.registry
    rw [he, if_neg hcallable]
    exact ⟨live, htracks⟩

theorem IsTracked.registerAll (h : s.IsTracked) (hooks : List KeyedHook) :
    (s.registerAll hooks).IsTracked := by
  obtain ⟨live, htracks⟩ := h
  unfold Run.registerAll IsTracked
  by_cases hcallable : ∀ hook ∈ hooks, hook.callback.isCallable = true
  · rw [Registry.registerAll_keyed hcallable, if_pos (List.all_eq_true.mpr hcallable)]
    exact htracks.exists_recorded hooks
  · obtain ⟨e, he⟩ := Registry.registerAll_keyed_refused hcallable s.registry
    rw [he, if_neg (mt List.all_eq_true.mp hcallable)]
    exact ⟨live, htracks⟩

theorem IsTracked.remove (h : s.IsTracked) (search : Except Fault Registry.KeySearch)
    (phases : PhaseSelector) (forget : Bool) : (s.remove search phases forget).IsTracked := by
  obtain ⟨live, htracks⟩ := h
  exact htracks.exists_removed search phases forget

end Run

mutual

theorem Operation.perform_tracked :
    ∀ (operation : Operation) {s : Run}, s.IsTracked → (operation.perform s).IsTracked
  | .register hook, _, h => h.register hook
  | .registerAll hooks, _, h => h.registerAll hooks
  | .remove search phases forget, _, h => h.remove search phases forget
  | .clear, s, _ => ⟨[], Registry.Tracks.cleared s.history⟩
  | .dispatch phase active arguments named body failure, s, h => by
      rw [Operation.perform]
      -- the callbacks hold operations of their own, to which the induction applies
      refine Registry.dispatch_keeps ?_ s.registry phase active arguments named h
      intro call t ht
      exact performAll_tracked (body call) ht

theorem Operation.performAll_tracked :
    ∀ (operations : List Operation) {s : Run}, s.IsTracked →
      (Operation.performAll operations s).IsTracked
  | [], _, h => h
  | operation :: rest, _, h => performAll_tracked rest (operation.perform_tracked h)

end

/-! ### Listings -/

namespace Holding

/-- The order of listings: by phases, and within a phase by the time at which the
pairs became live. -/
def ListedBefore (x y : Holding) : Prop :=
  HookPhase.all.idxOf x.pair.phase < HookPhase.all.idxOf y.pair.phase ∨
    x.pair.phase = y.pair.phase ∧ x.since < y.since

theorem ListedBefore.irrefl (x : Holding) : ¬ x.ListedBefore x := by
  rintro (h | ⟨-, h⟩)
  · exact Nat.lt_irrefl _ h
  · exact Nat.lt_irrefl _ h

/-- The holdings of a registry, phase by phase. -/
def listing (stored : List Holding) : List Holding :=
  HookPhase.all.flatMap fun p => stored.filter fun x => x.pair.phase == p

theorem mem_listing_iff (stored : List Holding) (x : Holding) :
    x ∈ listing stored ↔ x ∈ stored := by
  simp [listing, HookPhase.mem_all]

theorem listing_pairwise {stored : List Holding} (h : stored.Pairwise (·.since < ·.since)) :
    (listing stored).Pairwise ListedBefore := by
  have hphases : HookPhase.all.Pairwise fun p q =>
      HookPhase.all.idxOf p < HookPhase.all.idxOf q := by decide
  rw [listing, List.pairwise_flatMap]
  constructor
  · intro p _
    refine (h.filter _).imp_of_mem ?_
    intro x y hx hy hsince
    have hxp := beq_iff_eq.mp (List.mem_filter.mp hx).2
    have hyp := beq_iff_eq.mp (List.mem_filter.mp hy).2
    exact .inr ⟨hxp.trans hyp.symm, hsince⟩
  · refine hphases.imp ?_
    intro p q hlt x hx y hy
    have hxp := beq_iff_eq.mp (List.mem_filter.mp hx).2
    have hyq := beq_iff_eq.mp (List.mem_filter.mp hy).2
    refine .inl ?_
    rw [hxp, hyq]
    exact hlt

theorem listing_filter (stored : List Holding) (p : HookPhase) :
    (listing stored).filter (·.pair.phase == p) = stored.filter (·.pair.phase == p) := by
  have hphase : ∀ q, (stored.filter (·.pair.phase == q)).filter (·.pair.phase == p) =
      if q = p then stored.filter (·.pair.phase == p) else [] := by
    intro q
    rw [List.filter_filter]
    by_cases hqp : q = p
    · rw [if_pos hqp, hqp]
      simp
    · rw [if_neg hqp, List.filter_eq_nil_iff]
      intro x _ hx
      rw [Bool.and_eq_true, beq_iff_eq, beq_iff_eq] at hx
      exact hqp (hx.2.symm.trans hx.1)
  rw [listing, List.filter_flatMap, funext hphase]
  cases p <;> simp [HookPhase.all]

end Holding

namespace Registry.Tracks

variable {r : Registry} {history : History} {stored : List Holding}

theorem nodup_listing (h : r.Tracks history stored) :
    ((Holding.listing stored).map (·.pair)).Nodup := by
  rw [List.Nodup, List.pairwise_map]
  refine (Holding.listing_pairwise h.order).imp_of_mem ?_
  intro x y hx hy hbefore hpair
  rw [Holding.mem_listing_iff] at hx hy
  rw [h.eq_of_pair hx hy hpair] at hbefore
  exact Holding.ListedBefore.irrefl y hbefore

theorem listing_perm (h : r.Tracks history stored) : (Holding.listing stored).Perm stored := by
  refine (List.perm_ext_iff_of_nodup ?_ ?_).mpr (Holding.mem_listing_iff stored)
  · exact List.Nodup.of_map _ h.nodup_listing
  · exact List.Nodup.of_map _ h.nodup_pairs

theorem handlersIn_eq (h : r.Tracks history stored) (p : HookPhase) :
    r.handlersIn p = (stored.filter (·.pair.phase == p)).map (·.handler) := by
  rw [handlersIn, h.handlers, List.filter_map]
  rfl

theorem select_all (h : r.Tracks history stored) :
    r.select (.value (.str "all")) = .ok ((Holding.listing stored).map (·.handler)) := by
  have hall : HookPhase.select (.value (.str "all")) = .ok HookPhase.all := rfl
  have hphases : r.handlersIn =
      fun p => (stored.filter (·.pair.phase == p)).map (·.handler) := funext h.handlersIn_eq
  rw [select, hall, Holding.listing, List.map_flatMap, hphases]

end Registry.Tracks

/-- A registry is a map from pairs to their last registrations, whatever was done
to it: each pair that is live by the history has one handler, in the phase and
under the name of the pair; listings go by phases and then by the times at which
the pairs became live; and the known names are those of the pairs that are known
by the history. -/
theorem run_refines_map (operations : List Operation) :
    let s := Operation.performAll operations {}
    ∃ live : List Holding,
      (∀ pair x, s.history.holding pair = some x ↔ x ∈ live ∧ x.pair = pair) ∧
      (live.map (·.pair)).Nodup ∧
      (∀ p, s.registry.handlersIn p = (live.filter (·.pair.phase == p)).map (·.handler)) ∧
      s.registry.select (.value (.str "all")) = .ok (live.map (·.handler)) ∧
      live.Pairwise Holding.ListedBefore ∧
      s.registry.size = live.length ∧
      (∀ x ∈ live, x.handler.name = x.pair.handlerName ∧ x.handler.name ∈ s.registry.names) ∧
      Function.Injective HookPair.handlerName ∧
      ∀ name, name ∈ s.registry.names ↔
        ∃ pair, s.history.isKnown pair = true ∧ pair.handlerName = name := by
  intro s
  obtain ⟨stored, h⟩ : s.IsTracked :=
    Operation.performAll_tracked operations ⟨[], Registry.Tracks.initial⟩
  refine ⟨Holding.listing stored, ?_, h.nodup_listing, ?_, h.select_all,
    Holding.listing_pairwise h.order, ?_, ?_, HookPair.handlerName_injective, h.names⟩
  · intro pair x
    rw [h.holding_eq_some_iff, Holding.mem_listing_iff]
  · intro p
    rw [h.handlersIn_eq, Holding.listing_filter]
  · rw [h.listing_perm.length_eq, Registry.size, h.handlers, List.length_map]
  · intro x hx
    rw [Holding.mem_listing_iff] at hx
    have hlive := (h.isLive_iff x.pair).mpr ⟨x, hx, rfl⟩
    exact ⟨rfl, (h.names _).mpr ⟨x.pair, History.isKnown_of_isLive hlive, rfl⟩⟩

/-- Registering again keeps the place, and after a removal it goes to the end. -/
example :
    let hook (key : String) : KeyedHook :=
      ⟨⟨.mode, key⟩, .callable (.function "cb" "f"), .str "A"⟩
    let s := Operation.performAll [.registerAll [hook "a", hook "b", hook "a/b"],
      .register (hook "b"),
      .remove (Registry.readPattern (.str "^a$")) (.value (.str "mode")) true,
      .register (hook "a")] {}
    s.registry.handlers.map (·.name) =
      ["declcapture-hook/mode/b", "declcapture-hook/mode/a/b", "declcapture-hook/mode/a"] := by
  decide +kernel

end CaptureForest
