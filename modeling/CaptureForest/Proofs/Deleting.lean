import CaptureForest.Proofs.Tracking
import Mathlib.Data.List.Nodup

/-!
# Deleting handlers one after another

A removal searches the registry and then deletes what it has found, one handler
after another, each in the phase of its registration and under its name.  Such a
deletion fails if nothing is kept there.  In a registry that agrees with a history
it never does: names are distinct, a search finds no handler twice, and every
handler is kept where it is looked for.  A removal therefore drops what the search
has found, all at once, and the registry goes on to agree with its history.
-/

namespace CaptureForest

/-! ### Selectors -/

namespace HookPhase

/-- The phases that a selector stands for: all of them, the one that a text names,
or those that the items of what can be gone through name, each where it is first
named. -/
inductive Selects : PhaseSelector → List HookPhase → Prop where
  | unset : Selects (.value .none) all
  | everything {v : Value} (h : v.text? = some "all") : Selects (.value v) all
  | single {v : Value} {word : String} {p : HookPhase} (htext : v.text? = some word)
      (hword : ofName? word = some p) : Selects (.value v) [p]
  | sequence {v : Value} {items : List Value} {named : List HookPhase} (htext : v.text? = none)
      (hitems : v.elements? = some items)
      (hnamed : List.Forall₂ (fun item p => resolve item = .ok p) items named) :
      Selects (.value v) named.eraseDups
  | each {items : List Value} {named : List HookPhase}
      (hnamed : List.Forall₂ (fun item p => resolve item = .ok p) items named) :
      Selects (.each items) named.eraseDups
  | once {items : List Value} {named : List HookPhase}
      (hnamed : List.Forall₂ (fun item p => resolve item = .ok p) items named) :
      Selects (.once items) named.eraseDups

theorem resolveEach_eq_ok_iff (seen : List HookPhase) (items : List Value)
    (chosen : List HookPhase) :
    resolveEach seen items = .ok chosen ↔
      ∃ named, List.Forall₂ (fun item p => resolve item = .ok p) items named ∧
        named.foldl addTo seen = chosen := by
  induction items generalizing seen with
  | nil => simp [resolveEach]
  | cons item rest ih =>
      rw [resolveEach]
      cases hitem : resolve item with
      | error e => simp [hitem, List.forall₂_cons_left_iff]
      | ok p => simp [ih, hitem, List.forall₂_cons_left_iff]

theorem foldl_addTo (seen named : List HookPhase) :
    named.foldl addTo seen = seen ++ (named.filter fun p => !seen.contains p).eraseDups := by
  induction named generalizing seen with
  | nil => simp
  | cons p rest ih =>
      rw [List.foldl_cons, ih, addTo]
      by_cases hp : seen.contains p = true
      · rw [if_pos hp, List.filter_cons_of_neg (by simpa using hp)]
      · have hrest : (rest.filter fun q => !(seen ++ [p]).contains q) =
            (rest.filter fun q => !seen.contains q).filter fun q => !q == p := by
          rw [List.filter_filter]
          refine List.filter_congr fun q _ => ?_
          by_cases hq : q = p <;> simp [hq]
        rw [if_neg hp, List.filter_cons_of_pos (by simpa using hp), List.eraseDups_cons, hrest,
          List.append_assoc, List.singleton_append]

theorem foldl_addTo_nil (named : List HookPhase) : named.foldl addTo [] = named.eraseDups := by
  simp [foldl_addTo]

theorem nodup_foldl_addTo {seen : List HookPhase} (h : seen.Nodup) (named : List HookPhase) :
    (named.foldl addTo seen).Nodup := by
  induction named generalizing seen with
  | nil => exact h
  | cons p rest ih =>
      refine ih ?_
      unfold addTo
      split
      · exact h
      · rename_i hp
        rw [List.nodup_append_comm, List.singleton_append, List.nodup_cons]
        exact ⟨by simpa using hp, h⟩

theorem nodup_eraseDups (named : List HookPhase) : named.eraseDups.Nodup := by
  rw [← foldl_addTo_nil]
  exact nodup_foldl_addTo List.nodup_nil named

theorem Selects.nodup {selector : PhaseSelector} {chosen : List HookPhase}
    (h : Selects selector chosen) : chosen.Nodup := by
  cases h with
  | unset => decide
  | everything _ => decide
  | single _ _ => exact List.nodup_singleton _
  | sequence _ _ _ => exact nodup_eraseDups _
  | each _ => exact nodup_eraseDups _
  | once _ => exact nodup_eraseDups _

theorem select_of_text {v : Value} {word : String} (h : v.text? = some word) :
    select (.value v) = if word = "all" then .ok all else resolveEach [] [v] := by
  cases v with
  | str _ | entryType _ | phase _ =>
      cases h
      rfl
  | _ => cases h

theorem select_of_sequence {v : Value} {items : List Value} (htext : v.text? = none)
    (hitems : v.elements? = some items) : select (.value v) = resolveEach [] items := by
  have hset : v ≠ .none := by
    rintro rfl
    cases hitems
  simp [select, htext, hitems]

theorem resolveEach_singleton {v : Value} {word : String} (h : v.text? = some word)
    (chosen : List HookPhase) :
    resolveEach [] [v] = .ok chosen ↔ ∃ p, ofName? word = some p ∧ [p] = chosen := by
  simp [resolveEach_eq_ok_iff, List.forall₂_cons_left_iff, resolve_eq_ok_iff, h, addTo]

theorem resolveEach_nil_eq_ok_iff (items : List Value) (chosen : List HookPhase) :
    resolveEach [] items = .ok chosen ↔
      ∃ named, List.Forall₂ (fun item p => resolve item = .ok p) items named ∧
        named.eraseDups = chosen := by
  simp only [resolveEach_eq_ok_iff, foldl_addTo_nil]

theorem selects_of_value {v : Value} {chosen : List HookPhase}
    (h : select (.value v) = .ok chosen) : Selects (.value v) chosen := by
  by_cases hset : v = .none
  · subst hset
    obtain rfl := Except.ok.inj h
    exact .unset
  cases htext : v.text? with
  | some word =>
      rw [select_of_text htext] at h
      split at h
      · rename_i hall
        obtain rfl := Except.ok.inj h
        exact .everything (hall ▸ htext)
      · obtain ⟨p, hp, rfl⟩ := (resolveEach_singleton htext chosen).mp h
        exact .single htext hp
  | none =>
      cases hitems : v.elements? with
      | none => simp [select, htext, hitems] at h
      | some items =>
          rw [select_of_sequence htext hitems, resolveEach_nil_eq_ok_iff] at h
          obtain ⟨named, hnamed, rfl⟩ := h
          exact .sequence htext hitems hnamed

theorem select_eq_ok_iff (selector : PhaseSelector) (chosen : List HookPhase) :
    select selector = .ok chosen ↔ Selects selector chosen := by
  constructor
  · intro h
    cases selector with
    | value v => exact selects_of_value h
    | each items =>
        obtain ⟨named, hnamed, rfl⟩ := (resolveEach_nil_eq_ok_iff items chosen).mp h
        exact .each hnamed
    | once items =>
        obtain ⟨named, hnamed, rfl⟩ := (resolveEach_nil_eq_ok_iff items chosen).mp h
        exact .once hnamed
  · intro h
    cases h with
    | unset => rfl
    | everything htext => rw [select_of_text htext, if_pos rfl]
    | @single _ word p htext hword =>
        have hone : word ≠ "all" := by
          rintro rfl
          cases hword
        rw [select_of_text htext, if_neg hone]
        exact (resolveEach_singleton htext _).mpr ⟨p, hword, rfl⟩
    | sequence htext hitems hnamed =>
        rw [select_of_sequence htext hitems, resolveEach_nil_eq_ok_iff]
        exact ⟨_, hnamed, rfl⟩
    | each hnamed => exact (resolveEach_nil_eq_ok_iff _ _).mpr ⟨_, hnamed, rfl⟩
    | once hnamed => exact (resolveEach_nil_eq_ok_iff _ _).mpr ⟨_, hnamed, rfl⟩

end HookPhase

namespace Registry

/-! ### Searching -/

theorem mem_flatMap_handlersIn {r : Registry} {chosen : List HookPhase} {h : Handler} :
    h ∈ chosen.flatMap r.handlersIn ↔ h ∈ r.handlers ∧ h.phase ∈ chosen := by
  simp [handlersIn, and_comm]

theorem KeySearch.finds?_str (test : String → Bool) (key : String) :
    (KeySearch.inTexts test).finds? (.str key) = some (test key) := rfl

theorem exists_of_matching_error {search : KeySearch} {handlers : List Handler} {e : Fault}
    (h : matching search handlers = .error e) :
    ∃ handler ∈ handlers, search.finds? handler.key = none := by
  induction handlers with
  | nil => cases h
  | cons first rest ih =>
      rw [matching] at h
      cases hfound : search.finds? first.key with
      | none => exact ⟨first, List.mem_cons_self, hfound⟩
      | some isFound =>
          cases hrest : matching search rest with
          | error f =>
              obtain ⟨handler, hmem, hnone⟩ := ih (by simpa [hfound, hrest] using h)
              exact ⟨handler, List.mem_cons_of_mem _ hmem, hnone⟩
          | ok others => simp [hfound, hrest] at h

theorem matching_eq_ok_iff (search : KeySearch) (handlers found : List Handler) :
    matching search handlers = .ok found ↔
      (∀ h ∈ handlers, search.finds? h.key ≠ none) ∧
        found = handlers.filter fun h => search.finds? h.key == some true := by
  induction handlers generalizing found with
  | nil => simp [matching, eq_comm]
  | cons first rest ih =>
      rw [matching, List.forall_mem_cons, List.filter_cons]
      cases hfound : search.finds? first.key with
      | none => simp
      | some isFound =>
          cases hrest : matching search rest with
          | error e =>
              obtain ⟨handler, hmem, hnone⟩ := exists_of_matching_error hrest
              simp only [reduceCtorEq, false_iff, not_and, and_imp]
              exact fun _ hall => absurd hnone (hall handler hmem)
          | ok others =>
              obtain ⟨hall, rfl⟩ := (ih others).mp hrest
              rw [Except.ok.injEq, eq_comm, and_iff_right ⟨Option.some_ne_none isFound, hall⟩]
              cases isFound <;> rfl

theorem findBy_eq_ok_iff (r : Registry) (search : Except Fault KeySearch) (phases : PhaseSelector)
    (found : List Handler) :
    r.findBy search phases = .ok found ↔
      ∃ s chosen, search = .ok s ∧ HookPhase.Selects phases chosen ∧
        (∀ h ∈ r.handlers, h.phase ∈ chosen → s.finds? h.key ≠ none) ∧
        found = (chosen.flatMap r.handlersIn).filter fun h => s.finds? h.key == some true := by
  simp only [← HookPhase.select_eq_ok_iff]
  unfold findBy select
  cases search with
  | error e => simp
  | ok s =>
      cases hchosen : HookPhase.select phases with
      | error e => simp
      | ok chosen =>
          simp only [matching_eq_ok_iff, mem_flatMap_handlersIn, and_imp, Except.ok.injEq,
            exists_eq_left', exists_and_left]

/-! ### Keyed registries -/

theorem names_drop (r : Registry) (gone : List Handler) (forget : Bool) :
    (r.drop gone forget).names =
      if forget then r.names.filter fun name => name ∉ gone.map (·.name) else r.names := by
  cases forget with
  | false => rfl
  | true =>
      refine List.filter_congr fun name _ => ?_
      rw [Bool.eq_iff_iff, Bool.not_eq_true', List.any_eq_false, decide_eq_true_iff, List.mem_map]
      simp

theorem drop_nil (r : Registry) (forget : Bool) : r.drop [] forget = r := by
  cases forget <;> simp [drop]

theorem drop_drop (r : Registry) (gone rest : List Handler) (forget : Bool) :
    (r.drop gone forget).drop rest forget = r.drop (gone ++ rest) forget := by
  unfold drop
  cases forget <;> simp [List.filter_filter, Bool.and_comm]

/-- A registry as the operations leave it: names tell handlers apart and are known,
keys are texts, and each handler is kept in the phase of its registration. -/
structure IsKeyed (r : Registry) : Prop where
  names : (r.handlers.map (·.name)).Nodup
  known : ∀ h ∈ r.handlers, h.name ∈ r.names
  keys : ∀ h ∈ r.handlers, ∃ key, h.key = .str key
  members : ∀ h ∈ r.handlers, h.registration.member = .ok h.phase

namespace IsKeyed

variable {r : Registry} (h : r.IsKeyed)

include h

theorem eq_of_name {x y : Handler} (hx : x ∈ r.handlers) (hy : y ∈ r.handlers)
    (hname : x.name = y.name) : x = y :=
  List.inj_on_of_nodup_map h.names hx hy hname

theorem sharesSlot_iff {x y : Handler} (hx : x ∈ r.handlers) (hy : y ∈ r.handlers) :
    x.sharesSlot y = true ↔ x.name = y.name := by
  rw [Handler.sharesSlot, Bool.and_eq_true, beq_iff_eq, beq_iff_eq, and_iff_right_iff_imp]
  intro hname
  rw [h.eq_of_name hx hy hname]

/-- A selection lists no handler twice, as it names no phase twice. -/
theorem nodup_selected {chosen : List HookPhase} (hchosen : chosen.Nodup) :
    ((chosen.flatMap r.handlersIn).map (·.name)).Nodup := by
  have hnames : r.handlers.Pairwise fun x y => x.name ≠ y.name :=
    List.pairwise_map.mp h.names
  rw [List.Nodup, List.pairwise_map, List.pairwise_flatMap]
  constructor
  · intro p _
    exact hnames.filter _
  · refine hchosen.imp ?_
    intro p q hpq x hx y hy hname
    obtain ⟨hx, hxp⟩ := List.mem_filter.mp hx
    obtain ⟨hy, hyq⟩ := List.mem_filter.mp hy
    rw [beq_iff_eq] at hxp hyq
    rw [h.eq_of_name hx hy hname] at hxp
    exact hpq (hxp.symm.trans hyq)

theorem handlers_drop {gone : List Handler} (hgone : ∀ x ∈ gone, x ∈ r.handlers)
    (forget : Bool) :
    (r.drop gone forget).handlers = r.handlers.filter fun x => x.name ∉ gone.map (·.name) := by
  refine List.filter_congr fun x hx => ?_
  rw [Bool.eq_iff_iff, Bool.not_eq_true', List.any_eq_false, decide_eq_true_iff, List.mem_map]
  constructor
  · rintro hslots ⟨y, hy, hname⟩
    exact hslots y hy ((h.sharesSlot_iff hx (hgone y hy)).mpr hname.symm)
  · intro hnames y hy hslot
    exact hnames ⟨y, hy, ((h.sharesSlot_iff hx (hgone y hy)).mp hslot).symm⟩

theorem drop {gone : List Handler} (hgone : ∀ x ∈ gone, x ∈ r.handlers) (forget : Bool) :
    (r.drop gone forget).IsKeyed where
  names := by
    rw [h.handlers_drop hgone]
    exact h.names.sublist (List.filter_sublist.map _)
  known := by
    rw [h.handlers_drop hgone, names_drop]
    intro x hx
    obtain ⟨hx, hkept⟩ := List.mem_filter.mp hx
    split
    · exact List.mem_filter.mpr ⟨h.known x hx, hkept⟩
    · exact h.known x hx
  keys := fun x hx => h.keys x (List.mem_of_mem_filter hx)
  members := fun x hx => h.members x (List.mem_of_mem_filter hx)

/-- A handler that is live is found where it is looked for. -/
theorem delete_eq {x : Handler} (hx : x ∈ r.handlers) (forget : Bool) :
    r.delete forget x = .ok (r.drop [x] forget) := by
  have hslot : r.handlers.any x.sharesSlot = true :=
    List.any_eq_true.mpr ⟨x, hx, (h.sharesSlot_iff hx hx).mpr rfl⟩
  rw [delete, h.members x hx]
  exact if_pos hslot

end IsKeyed

/-- Deleting one after another what a keyed registry lists drops it all at once. -/
theorem IsKeyed.deleteEach_eq {r : Registry} (h : r.IsKeyed) {gone : List Handler}
    (hgone : ∀ x ∈ gone, x ∈ r.handlers) (hnames : (gone.map (·.name)).Nodup)
    (forget : Bool) :
    deleteEach forget gone r = (.ok (gone.map (·.name)), r.drop gone forget) := by
  induction gone generalizing r with
  | nil => rw [drop_nil]; rfl
  | cons x rest ih =>
      obtain ⟨hx, hrest⟩ := List.forall_mem_cons.mp hgone
      rw [List.map_cons, List.nodup_cons] at hnames
      -- what is yet to be deleted has other names, so it is still there
      have hlater : ∀ y ∈ rest, y ∈ (r.drop [x] forget).handlers := by
        intro y hy
        rw [h.handlers_drop (by simpa using hx), List.mem_filter]
        have hname : y.name ≠ x.name := by
          intro hname
          exact hnames.1 (hname ▸ List.mem_map_of_mem hy)
        exact ⟨hrest y hy, by simpa using hname⟩
      have hdropped : (r.drop [x] forget).IsKeyed := h.drop (by simpa using hx) forget
      rw [deleteEach, h.delete_eq hx]
      simp only [ih hdropped hlater hnames.2, drop_drop]
      rfl

/-- What becomes of a registry when handlers are removed from it: the live handlers,
whose names are distinct, keep their order without those that are gone, and only a
removal that forgets takes their names from the known ones. -/
structure Removal (r : Registry) (gone : List Handler) (forget : Bool) (left : Registry) :
    Prop where
  distinct : (r.handlers.map (·.name)).Nodup
  live : ∀ h ∈ gone, h ∈ r.handlers ∧ h.name ∈ r.names
  once : (gone.map (·.name)).Nodup
  handlers : left.handlers = r.handlers.filter fun h => h.name ∉ gone.map (·.name)
  names : left.names =
    if forget then r.names.filter fun name => name ∉ gone.map (·.name) else r.names

variable {r : Registry} {search : Except Fault KeySearch} {phases : PhaseSelector}

namespace IsKeyed

variable (hr : r.IsKeyed)

include hr

theorem removal_of_found {gone : List Handler} (h : r.findBy search phases = .ok gone)
    (forget : Bool) : r.Removal gone forget (r.drop gone forget) := by
  obtain ⟨s, chosen, rfl, hchosen, -, rfl⟩ := (findBy_eq_ok_iff _ _ _ _).mp h
  have hlive : ∀ x ∈ (chosen.flatMap r.handlersIn).filter fun x => s.finds? x.key == some true,
      x ∈ r.handlers :=
    fun x hx => (mem_flatMap_handlersIn.mp (List.mem_of_mem_filter hx)).1
  exact {
    distinct := hr.names
    live := fun x hx => ⟨hlive x hx, hr.known x (hlive x hx)⟩
    once := (hr.nodup_selected hchosen.nodup).sublist (List.filter_sublist.map _)
    handlers := hr.handlers_drop hlive forget
    names := names_drop r _ forget }

theorem removeBy_eq {gone : List Handler} (h : r.findBy search phases = .ok gone)
    (forget : Bool) :
    r.removeBy search phases forget = (.ok (gone.map (·.name)), r.drop gone forget) := by
  have hremoval := hr.removal_of_found h forget
  rw [removeBy, h]
  exact hr.deleteEach_eq (fun x hx => (hremoval.live x hx).1) hremoval.once forget

end IsKeyed

/-! ### Tracked registries -/

theorem Tracks.isKeyed {r : Registry} {history : History} {live : List Holding}
    (h : r.Tracks history live) : r.IsKeyed where
  names := by
    have hnames : live.map (·.handler.name) = (live.map (·.pair)).map (·.handlerName) := by
      rw [List.map_map]
      rfl
    rw [h.handlers, List.map_map]
    exact hnames ▸ h.nodup_pairs.map HookPair.handlerName_injective
  known := by
    rw [h.handlers, List.forall_mem_map]
    intro x hx
    have hlive := (h.isLive_iff x.pair).mpr ⟨x, hx, rfl⟩
    exact (h.names _).mpr ⟨x.pair, History.isKnown_of_isLive hlive, rfl⟩
  keys := by
    rw [h.handlers, List.forall_mem_map]
    exact fun x _ => ⟨x.pair.key, rfl⟩
  members := by
    rw [h.handlers, List.forall_mem_map]
    exact fun x _ => rfl

/-- A search finds the handlers of the live pairs that the removal is about. -/
theorem mem_of_findBy {live : List Holding} (hhandlers : r.handlers = live.map (·.handler))
    {found : List Handler} (h : r.findBy search phases = .ok found) (handler : Handler) :
    handler ∈ found ↔ ∃ x ∈ live, removes search phases x.pair = true ∧ x.handler = handler := by
  obtain ⟨s, chosen, rfl, hchosen, -, rfl⟩ := (findBy_eq_ok_iff _ _ _ _).mp h
  have hremoves : ∀ x : Holding, removes (.ok s) phases x.pair = true ↔
      x.handler.phase ∈ chosen ∧ s.finds? x.handler.key = some true := by
    intro x
    have hkey : x.handler.key = .str x.pair.key := rfl
    have hphase : x.handler.phase = x.pair.phase := rfl
    simp only [removes, (HookPhase.select_eq_ok_iff _ _).mpr hchosen, hkey, hphase,
      Bool.and_eq_true, List.contains_iff_mem]
    cases s.finds? (.str x.pair.key) <;> simp
  rw [List.mem_filter, beq_iff_eq, mem_flatMap_handlersIn, hhandlers, List.mem_map]
  constructor
  · rintro ⟨⟨⟨x, hx, rfl⟩, hphase⟩, hfound⟩
    exact ⟨x, hx, (hremoves x).mpr ⟨hphase, hfound⟩, rfl⟩
  · rintro ⟨x, hx, hremoved, rfl⟩
    obtain ⟨hphase, hfound⟩ := (hremoves x).mp hremoved
    exact ⟨⟨⟨x, hx, rfl⟩, hphase⟩, hfound⟩

/-- A failing search is about no pair: a search in bytes finds no text. -/
theorem removes_of_findBy_error {live : List Holding}
    (hhandlers : r.handlers = live.map (·.handler)) {e : Fault}
    (h : r.findBy search phases = .error e) (pair : HookPair) :
    removes search phases pair = false := by
  unfold removes
  cases search with
  | error e => rfl
  | ok s =>
      cases hchosen : HookPhase.select phases with
      | error e => rfl
      | ok chosen =>
          simp only [findBy, select, hchosen] at h
          -- some key cannot be searched; being a text, it is not searched for bytes only
          obtain ⟨handler, hmem, hnone⟩ := exists_of_matching_error h
          have hlive := (mem_flatMap_handlersIn.mp hmem).1
          rw [hhandlers] at hlive
          obtain ⟨x, -, rfl⟩ := List.mem_map.mp hlive
          have hkey : x.handler.key = .str x.pair.key := rfl
          rw [hkey] at hnone
          cases s with
          | inTexts test => simp [KeySearch.finds?_str] at hnone
          | inBytes test => simp [KeySearch.finds?]

/-- A removal leaves a registry that agrees with the history it goes on with. -/
theorem Tracks.exists_removed {history : History} {live : List Holding}
    (h : r.Tracks history live) (search : Except Fault KeySearch) (phases : PhaseSelector)
    (forget : Bool) :
    ∃ live', (r.removeBy search phases forget).2.Tracks
      (.removed (removes search phases) forget :: history) live' := by
  cases hfound : r.findBy search phases with
  | error e =>
      have hnone := removes_of_findBy_error h.handlers hfound
      rw [removeBy, hfound]
      exact ⟨live, h.removed_none hnone forget⟩
  | ok gone =>
      have hgone := mem_of_findBy h.handlers hfound
      rw [h.isKeyed.removeBy_eq hfound]
      exact ⟨_, removed hgone h forget⟩

end Registry

end CaptureForest
