import CaptureForest.Proofs.Refinement

/-!
# Removals

A removal deletes what the search finds just before.  What was found is gone
afterwards, so a second removal finds nothing, and a removal that is refused has not
begun to delete.
-/

namespace CaptureForest

namespace Registry

theorem isKeyed_of_run (operations : List Operation) :
    (Operation.performAll operations {}).registry.IsKeyed := by
  obtain ⟨live, h⟩ : (Operation.performAll operations {}).IsTracked :=
    Operation.performAll_tracked operations ⟨[], Registry.Tracks.initial⟩
  exact h.isKeyed

variable {r : Registry} {search : Except Fault KeySearch} {phases : PhaseSelector}

/-- What a search has found is not found again once it is dropped. -/
theorem IsKeyed.findBy_drop (hr : r.IsKeyed) {gone : List Handler}
    (h : r.findBy search phases = .ok gone) (forget : Bool) :
    (r.drop gone forget).findBy search phases = .ok [] := by
  have hhandlers := (hr.removal_of_found h forget).handlers
  obtain ⟨s, chosen, rfl, hchosen, hsearched, hgone⟩ := (findBy_eq_ok_iff _ _ _ _).mp h
  refine (findBy_eq_ok_iff _ _ _ _).mpr ⟨s, chosen, rfl, hchosen, ?_, ?_⟩
  · intro x hx
    exact hsearched x (List.mem_of_mem_filter hx)
  · rw [eq_comm, List.filter_eq_nil_iff]
    intro x hx hfound
    obtain ⟨hleft, hphase⟩ := mem_flatMap_handlersIn.mp hx
    rw [hhandlers, List.mem_filter, decide_eq_true_iff] at hleft
    refine hleft.2 (List.mem_map_of_mem ?_)
    rw [hgone]
    exact List.mem_filter.mpr ⟨mem_flatMap_handlersIn.mpr ⟨hleft.1, hphase⟩, hfound⟩

/-- Nothing more comes from a selector that was gone through and can be so only once. -/
theorem findBy_spent (hfound : r.findBy search phases = .ok []) :
    r.findBy search phases.spent = .ok [] := by
  cases phases with
  | value v => exact hfound
  | each items => exact hfound
  | once items =>
      obtain ⟨s, chosen, rfl, -⟩ := (findBy_eq_ok_iff _ _ _ _).mp hfound
      rfl

theorem removeBy_of_none (hfound : r.findBy search phases = .ok []) (forget : Bool) :
    r.removeBy search phases forget = (.ok [], r) := by
  rw [removeBy, hfound]
  rfl

theorem findBy_of_selects (hr : r.IsKeyed) (test : String → Bool) {chosen : List HookPhase}
    (hchosen : HookPhase.Selects phases chosen) :
    r.findBy (.ok (.inTexts test)) phases =
      .ok ((chosen.flatMap r.handlersIn).filter fun h => h.key.text?.any test) := by
  refine (findBy_eq_ok_iff _ _ _ _).mpr ⟨_, chosen, rfl, hchosen, ?_, ?_⟩
  · intro x hx _
    obtain ⟨key, hkey⟩ := hr.keys x hx
    rw [hkey, KeySearch.finds?_str]
    exact Option.some_ne_none _
  · refine List.filter_congr fun x _ => ?_
    rw [KeySearch.finds?]
    cases x.key.text? with
    | none => rfl
    | some key => cases htest : test key <;> simp [htest]

theorem exists_findBy_error (r : Registry)
    (h : (∃ e, search = .error e) ∨ ¬ ∃ chosen, HookPhase.Selects phases chosen) :
    ∃ e, r.findBy search phases = .error e := by
  cases hfound : r.findBy search phases with
  | error e => exact ⟨e, rfl⟩
  | ok gone =>
      obtain ⟨s, chosen, rfl, hchosen, -⟩ := (findBy_eq_ok_iff _ _ _ _).mp hfound
      rcases h with ⟨e, he⟩ | hnone
      · cases he
      · exact absurd ⟨chosen, hchosen⟩ hnone

/-- In a registry that was reached by operations, a removal deletes what the search
finds, and never fails on a handler that is missing; doing it again finds nothing, also
if the selector has nothing more to yield.  A search in texts finds, phase by phase, the
keys that pass its test, and a removal whose pattern or selector is refused changes
nothing. -/
theorem remove_deletes_found (operations : List Operation) (search : Except Fault KeySearch)
    (phases : PhaseSelector) (forget : Bool) :
    let r := (Operation.performAll operations {}).registry
    (∀ gone, r.findBy search phases = .ok gone →
      ∃ left, r.removeBy search phases forget = (.ok (gone.map (·.name)), left) ∧
        r.Removal gone forget left ∧
        left.removeBy search phases forget = (.ok [], left) ∧
        left.removeBy search phases.spent forget = (.ok [], left)) ∧
    (∀ test chosen, search = .ok (.inTexts test) → HookPhase.Selects phases chosen →
      r.findBy search phases =
        .ok ((chosen.flatMap r.handlersIn).filter fun h => h.key.text?.any test)) ∧
    (((∃ e, search = .error e) ∨ ¬ ∃ chosen, HookPhase.Selects phases chosen) →
      ∃ e, r.findBy search phases = .error e) ∧
    ∀ e, r.findBy search phases = .error e →
      r.removeBy search phases forget = (.error e, r) := by
  intro r
  have hr : r.IsKeyed := isKeyed_of_run operations
  refine ⟨?_, ?_, exists_findBy_error r, ?_⟩
  · intro gone hgone
    have hagain := hr.findBy_drop hgone forget
    exact ⟨_, hr.removeBy_eq hgone forget, hr.removal_of_found hgone forget,
      removeBy_of_none hagain forget, removeBy_of_none (findBy_spent hagain) forget⟩
  · rintro test chosen rfl hchosen
    exact findBy_of_selects hr test hchosen
  · intro e he
    rw [removeBy, he]

/-- A selector that yields one phase three times and only once, and a selector that names
no phase. -/
theorem remove_deletes_found_of_aliases :
    let hook (phase : HookPhase) (key : String) : KeyedHook :=
      ⟨⟨phase, key⟩, .callable (.function "cb" "f"), .str "A"⟩
    let r := (Operation.performAll [.registerAll
      [hook .mode "ab", hook .mode "c", hook .afterFinalize "a"]] {}).registry
    let search : Except Fault KeySearch := .ok (.inTexts fun key => key != "c")
    let phases : PhaseSelector := .once [.str "mode", .str "hook", .phase .mode]
    (∃ left, r.removeBy search phases true = (.ok ["declcapture-hook/mode/ab"], left) ∧
      r.Removal [(hook .mode "ab").handler] true left ∧
      left.removeBy search phases true = (.ok [], left) ∧
      left.removeBy search (.once []) true = (.ok [], left)) ∧
    ∃ e, r.removeBy search (.value (.str "later")) true = (.error e, r) := by
  intro hook r search phases
  constructor
  · obtain ⟨hremoved, hlisted, -⟩ := remove_deletes_found
      [.registerAll [hook .mode "ab", hook .mode "c", hook .afterFinalize "a"]] search phases true
    have hphases : HookPhase.Selects phases [.mode] := (HookPhase.select_eq_ok_iff _ _).mp rfl
    have hfound : r.findBy search phases = .ok [(hook .mode "ab").handler] :=
      hlisted _ [.mode] rfl hphases
    exact hremoved _ hfound
  · obtain ⟨-, -, hrefused, hunchanged⟩ := remove_deletes_found
      [.registerAll [hook .mode "ab", hook .mode "c", hook .afterFinalize "a"]] search
        (.value (.str "later")) true
    have hnone : ¬ ∃ chosen, HookPhase.Selects (.value (.str "later")) chosen := by
      rintro ⟨chosen, hchosen⟩
      cases (HookPhase.select_eq_ok_iff _ _).mpr hchosen
    obtain ⟨e, he⟩ := hrefused (.inr hnone)
    exact ⟨e, hunchanged e he⟩

end Registry

end CaptureForest
