import CaptureForest.Proofs.CompileOrder
import CaptureForest.Proofs.Layout

/-!
# Hooks in step with entries

The hooks of a compilation are gathered while its trees are compiled, and its
entries are laid out afterwards.  Both follow the same order of visits, sorted or
not, so the hooks are what the entries ask for one after another: a leaf asks for
the slots that its declaration sets, under its own key and name, and a group asks
for nothing.
-/

namespace CaptureForest

namespace Entry

/-- The slots of a declaration with the phases that they fill, in the order in
which a leaf asks for them. -/
def slots : List (String × HookPhase) :=
  [("hook", .mode), ("prepare-finalize", .prepareFinalize),
    ("before-finalize", .beforeFinalize), ("after-finalize", .afterFinalize)]

/-- What the entry of a declaration asks for by one slot, if that holds a value
other than none and false. -/
def request (e : Entry) (d : Declaration) (slot : String) (phase : HookPhase) :
    Option HookRegistration :=
  match d.get slot with
  | .none | .bool false => none
  | callback => some { key := .str e.key, callback, phase := .phase phase, entryName := e.name }

/-- A group asks for nothing. -/
def requests (e : Entry) (d : Declaration) : List HookRegistration :=
  if e.isGroup then [] else slots.filterMap fun (slot, phase) => e.request d slot phase

theorem request_eq (e : Entry) (d : Declaration) (slot : String) (phase : HookPhase) :
    e.request d slot phase =
      if d.sets slot then
        some { key := .str e.key, callback := d.get slot, phase := .phase phase, entryName := e.name }
      else none := by
  unfold request Declaration.sets
  cases d.get slot with
  | bool b => cases b <;> rfl
  | _ => rfl

theorem requests_of_group {e : Entry} (h : e.isGroup = true) (d : Declaration) :
    e.requests d = [] := by
  rw [requests, if_pos h]

theorem requests_of_leaf {l : Leaf} {d : Declaration} (hname : l.name = d.name) :
    (Entry.leaf l).requests d = d.hooks l.key := by
  have hleaf : ¬ (Entry.leaf l).isGroup = true := by simp [isGroup]
  have hslots : slots = HookPhase.all.map fun p => (p.slot, p) := rfl
  rw [requests, if_neg hleaf, hslots, List.filterMap_map, Declaration.hooks,
    ← List.filterMap_eq_filter, List.map_filterMap]
  apply List.filterMap_congr
  intro p _
  by_cases hsets : d.sets p.slot = true
  · simp [request_eq, Option.guard, hsets, key, name, hname]
  · simp [request_eq, Option.guard, hsets]

theorem mem_requests {e : Entry} {d : Declaration} {r : HookRegistration}
    (h : r ∈ e.requests d) :
    ∃ l, e = .leaf l ∧ r.key = .str l.key ∧ r.entryName = l.name := by
  cases e with
  | group key name =>
      rw [requests_of_group rfl] at h
      cases h
  | leaf l =>
      have hleaf : ¬ (Entry.leaf l).isGroup = true := by simp [isGroup]
      rw [requests, if_neg hleaf, List.mem_filterMap] at h
      obtain ⟨⟨slot, phase⟩, -, hr⟩ := h
      simp only [request_eq] at hr
      split at hr
      · obtain rfl := Option.some.inj hr
        exact ⟨l, rfl, rfl, rfl⟩
      · cases hr

end Entry

namespace Visit

/-- The entry of a visit asks for what the visit registers. -/
theorem requests_of_entry {defaultType : EntryType} {u : Visit} {e : Entry}
    (h : u.entry defaultType = .ok e) : e.requests u.node = u.registrations := by
  rcases entry_cases h with ⟨hchildren, rfl⟩ | ⟨hchildren, type, template, -, -, rfl⟩
  · rw [registrations, if_pos hchildren, Entry.requests_of_group rfl]
  · rw [registrations, hchildren, if_neg Bool.false_ne_true, Entry.requests_of_leaf rfl]

end Visit

namespace Compile

theorem flatten_requests {defaultType : EntryType} {visits : List Visit} {entries : List Entry}
    (h : List.Forall₂ (fun u e => Visit.entry defaultType u = .ok e) visits entries) :
    (List.zipWith (fun u e => e.requests u.node) visits entries).flatten =
      visits.flatMap Visit.registrations := by
  induction h with
  | nil => rfl
  | cons hentry _ ih =>
      rw [List.zipWith_cons_cons, List.flatten_cons, List.flatMap_cons, ih,
        Visit.requests_of_entry hentry]

/-- In sorted order, too, every entry is the one that its declaration yields. -/
theorem yields_of_areOf {plan : Plan} {v : Value} {entries : List Entry}
    {hooks : List HookRegistration}
    (h : AreOf plan.defaultType (Forest.compileOrder plan v) entries hooks) :
    List.Forall₂ (Visit.Yields plan.defaultType) (Forest.compileOrder plan v) entries := by
  have hperm := Forest.compileOrder_perm plan v
  have hcompiled := (exists_mapM_eq_ok_iff _ _).mp ⟨entries, (mapM_eq_ok_iff _ _ _).mpr h.entries⟩
  have hall : ∀ w ∈ Forest.visits v, ∃ e, Visit.entry plan.defaultType w = .ok e := by
    intro w hw
    exact hcompiled w (hperm.mem_iff.mpr hw)
  have hkeys : ∀ u ∈ Forest.compileOrder plan v, ∀ d ∈ u.lineage, d.HasKeys := by
    intro u hu
    exact hasKeys_of_compiled hall (hperm.mem_iff.mp hu)
  have hboth := (List.forall₂_and_left _ _).mpr ⟨hkeys, h.entries⟩
  exact hboth.imp fun u e he => Visit.yields_of_entry he.2 he.1

/-- The hooks of a compilation are those that its entries ask for, entry by entry
in the order in which the entries stand, whatever the plan sorts by. -/
theorem hooks_eq_requests {plan : Plan} {v : Value} {c : Compilation}
    (h : forest plan v = .ok c) :
    (Forest.compileOrder plan v).Perm (Forest.visits v) ∧
      List.Forall₂ (Visit.Yields plan.defaultType) (Forest.compileOrder plan v) c.entries ∧
      c.hooks = (List.zipWith (fun u e => e.requests u.node)
        (Forest.compileOrder plan v) c.entries).flatten ∧
      ∀ r ∈ c.hooks, ∃ l, Entry.leaf l ∈ c.entries ∧ r.key = .str l.key ∧ r.entryName = l.name := by
  have hcompiled := areOf_of_forest h
  have hhooks : c.hooks = (List.zipWith (fun u e => e.requests u.node)
      (Forest.compileOrder plan v) c.entries).flatten := by
    rw [hcompiled.hooks, flatten_requests hcompiled.entries]
  refine ⟨Forest.compileOrder_perm plan v, yields_of_areOf hcompiled, hhooks, ?_⟩
  intro r hr
  rw [hhooks] at hr
  obtain ⟨block, hblock, hrblock⟩ := List.mem_flatten.mp hr
  rw [← List.map_uncurry_zip_eq_zipWith] at hblock
  obtain ⟨⟨u, e⟩, hpair, rfl⟩ := List.mem_map.mp hblock
  obtain ⟨l, rfl, hkey, hname⟩ := Entry.mem_requests hrblock
  exact ⟨l, (List.of_mem_zip hpair).2, hkey, hname⟩

/-- Leaves before groups, and children with fewer attributes first: the hooks of
`Note` come between those of `Zettel` and of `Todo`, and a slot that holds false is
not asked for. -/
theorem hooks_eq_requests_of_sorted :
    let f (name : String) : Value := .callable (.function "cb" name)
    let plan : Plan := {
      sortForest := some SiblingOrder.leavesFirst.less
      sortChildren := some SiblingOrder.fewerAttributes.less }
    let v : Value := .list [
      .node (.str "Tasks") [(.str "keys", .str "t"), (.str "children", .list [
        .node (.str "Todo") [(.str "keys", .str "o"), (.str "after-finalize", f "after"),
          (.str "file", .str "todo.org"), (.str "hook", f "mode")],
        .node (.str "Note") [(.str "keys", .str "n"), (.str "hook", f "note"),
          (.str "before-finalize", .bool false)]])],
      .node (.str "Zettel") [(.str "keys", .str "z"), (.str "prepare-finalize", f "zettel")]]
    ∃ c, forest plan v = .ok c ∧ c.entries.map Entry.key = ["z", "t", "tn", "to"] ∧
      c.hooks.map (fun r => (r.key, r.callback, r.phase)) =
        [(.str "z", f "zettel", .phase .prepareFinalize), (.str "tn", f "note", .phase .mode),
          (.str "to", f "mode", .phase .mode), (.str "to", f "after", .phase .afterFinalize)] ∧
      c.hooks = (List.zipWith (fun u e => e.requests u.node)
        (Forest.compileOrder plan v) c.entries).flatten := by
  intro f plan v
  have hkeys : (forest plan v).map (fun c => c.entries.map Entry.key) =
      .ok ["z", "t", "tn", "to"] := rfl
  have hhooks : (forest plan v).map (fun c => c.hooks.map fun r => (r.key, r.callback, r.phase)) =
      .ok [(.str "z", f "zettel", .phase .prepareFinalize), (.str "tn", f "note", .phase .mode),
        (.str "to", f "mode", .phase .mode), (.str "to", f "after", .phase .afterFinalize)] := rfl
  cases hcompile : forest plan v with
  | error e =>
      rw [hcompile] at hkeys
      cases hkeys
  | ok c =>
      rw [hcompile] at hkeys hhooks
      obtain ⟨-, -, hrequests, -⟩ := hooks_eq_requests hcompile
      exact ⟨c, rfl, Except.ok.inj hkeys, Except.ok.inj hhooks, hrequests⟩

end Compile

end CaptureForest
