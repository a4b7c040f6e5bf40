import CaptureForest.Proofs.CompileOrder
import CaptureForest.Proofs.Refinement
import Mathlib.Data.List.Induction

/-!
# Declared hooks fire

Declaring a forest registers the hooks of its leaves in the order in which they
are compiled, so the last leaf with a full key and a phase has its callback in
the registry, and all other pairs hold what they held.  A signal with a key runs
the one callback that is held for its phase and the key.  Declaring the same
forest again renews every hook in its place with itself.
-/

namespace CaptureForest

/-! ### Recording hooks -/

namespace History

def hook? (history : History) (pair : HookPair) : Option KeyedHook :=
  (history.holding pair).map (·.hook)

end History

/-- The last of some hooks that is for a pair. -/
def KeyedHook.lastFor (hooks : List KeyedHook) (pair : HookPair) : Option KeyedHook :=
  hooks.reverse.find? fun hook => hook.pair = pair

namespace Run

theorem record_concat (hooks : List KeyedHook) (hook : KeyedHook) (history : History) :
    record (hooks ++ [hook]) history = .registered hook :: record hooks history := by
  rw [record, List.foldl_append]
  rfl

theorem hook?_record (hooks : List KeyedHook) (history : History) (pair : HookPair) :
    (record hooks history).hook? pair =
      (KeyedHook.lastFor hooks pair).or (history.hook? pair) := by
  induction hooks using List.reverseRecOn with
  | nil => rfl
  | append_singleton hooks hook ih =>
      rw [record_concat, KeyedHook.lastFor, List.reverse_concat, History.hook?, History.holding]
      by_cases hpair : hook.pair = pair
      · simp [hpair]
      · rw [if_neg hpair, List.find?_cons_of_neg (by simpa using hpair)]
        exact ih

/-- Registering a pair again does not change since when it is live. -/
theorem since_record {history : History} {pair : HookPair} {y : Holding}
    (h : history.holding pair = some y) (hooks : List KeyedHook) :
    ((record hooks history).holding pair).map (·.since) = some y.since := by
  induction hooks using List.reverseRecOn with
  | nil => rw [record, List.foldl_nil, h, Option.map_some]
  | append_singleton hooks hook ih =>
      rw [record_concat, History.holding]
      by_cases hpair : hook.pair = pair
      · rw [if_pos hpair, ih]
        rfl
      · rw [if_neg hpair]
        exact ih

/-- Recording the same hooks a second time changes nothing that is held. -/
theorem holding_record_record (hooks : List KeyedHook) (history : History) (pair : HookPair) :
    (record hooks (record hooks history)).holding pair = (record hooks history).holding pair := by
  have hhook : (record hooks (record hooks history)).hook? pair =
      (record hooks history).hook? pair := by
    rw [hook?_record, hook?_record]
    cases KeyedHook.lastFor hooks pair <;> rfl
  unfold History.hook? at hhook
  cases hfirst : (record hooks history).holding pair with
  | none =>
      rw [hfirst, Option.map_none, Option.map_eq_none_iff] at hhook
      exact hhook
  | some y =>
      have hsince := since_record hfirst hooks
      rw [hfirst] at hhook
      obtain ⟨x, hx, hxhook⟩ := Option.map_eq_some_iff.mp hhook
      rw [hx, Option.map_some, Option.some.injEq] at hsince
      rw [hx]
      congr 1
      cases x
      cases y
      simp_all

end Run

/-! ### What a registry holds -/

theorem Holding.same_key_iff (x : Holding) (key : String) :
    (Value.str key).same x.handler.key = true ↔ x.pair.key = key := by
  have hkey : x.handler.key = .str x.pair.key := rfl
  have hsame : (Value.str key).same (.str x.pair.key) = (key == x.pair.key) := by
    simp [Value.same, Value.scalarSame, Value.number?, Value.text?]
  rw [hkey, hsame, beq_iff_eq]
  exact eq_comm

namespace Registry

theorem insertAll_cons (h : Handler) (rest : List Handler) (r : Registry) :
    r.insertAll (h :: rest) = (r.insert h).insertAll rest := rfl

theorem mem_names_insertAll (handlers : List Handler) (r : Registry) (name : String) :
    name ∈ (r.insertAll handlers).names ↔ name ∈ handlers.map (·.name) ∨ name ∈ r.names := by
  induction handlers generalizing r with
  | nil => simp [insertAll]
  | cons h rest ih =>
      rw [insertAll_cons, ih, insert, mem_addName, List.map_cons, List.mem_cons]
      tauto

theorem names_insertAll_of_known {handlers : List Handler} {r : Registry}
    (h : ∀ handler ∈ handlers, handler.name ∈ r.names) :
    (r.insertAll handlers).names = r.names := by
  induction handlers generalizing r with
  | nil => rfl
  | cons first rest ih =>
      have hfirst : (r.insert first).names = r.names := by
        have hcontains := List.contains_iff_mem.mpr (h first List.mem_cons_self)
        rw [insert, addName, if_pos hcontains]
      rw [insertAll_cons, ih, hfirst]
      intro handler hhandler
      rw [hfirst]
      exact h handler (List.mem_cons_of_mem _ hhandler)

theorem eq_of_handlers_of_names {r r' : Registry} (hhandlers : r.handlers = r'.handlers)
    (hnames : r.names = r'.names) : r = r' := by
  cases r
  cases r'
  rw [Registry.mk.injEq]
  exact ⟨hhandlers, hnames⟩

namespace Tracks

variable {r : Registry} {history : History} {live : List Holding}

/-- What is held for the pairs determines the handlers and their order. -/
theorem live_eq_of_holding {r' : Registry} {history' : History} {live' : List Holding}
    (h : r.Tracks history live) (h' : r'.Tracks history' live')
    (hheld : ∀ pair, history.holding pair = history'.holding pair) : live = live' := by
  have hmem : ∀ x, x ∈ live ↔ x ∈ live' := by
    intro x
    rw [h.mem, h'.mem, hheld]
  have hperm : live.Perm live' := by
    refine (List.perm_ext_iff_of_nodup ?_ ?_).mpr hmem
    · exact List.Nodup.of_map _ h.nodup_pairs
    · exact List.Nodup.of_map _ h'.nodup_pairs
  -- the times at which the pairs became live put the same holdings in the same order
  refine hperm.eq_of_pairwise ?_ h.order h'.order
  intro x y _ _ hxy hyx
  exact absurd (Nat.lt_trans hxy hyx) (Nat.lt_irrefl _)

theorem recorded_twice (h : r.Tracks history live) (hooks : List KeyedHook) :
    (r.insertAll (hooks.map (·.handler))).insertAll (hooks.map (·.handler)) =
      r.insertAll (hooks.map (·.handler)) := by
  obtain ⟨once, honce⟩ := h.exists_recorded hooks
  obtain ⟨twice, htwice⟩ := honce.exists_recorded hooks
  have hlive := htwice.live_eq_of_holding honce (Run.holding_record_record hooks history)
  have hknown : ∀ handler ∈ hooks.map (·.handler),
      handler.name ∈ (r.insertAll (hooks.map (·.handler))).names := by
    intro handler hhandler
    rw [mem_names_insertAll]
    exact .inl (List.mem_map_of_mem hhandler)
  have hnames := names_insertAll_of_known hknown
  have hhandlers := htwice.handlers
  rw [hlive, ← honce.handlers] at hhandlers
  exact eq_of_handlers_of_names hhandlers hnames

/-! ### Signals -/

/-- A signal with a key runs the callback that is held for its phase and the key. -/
theorem dispatch_eq {σ : Type} (run : Call → Effect σ Unit) {phase : Value} {p : HookPhase}
    {named : Pairs} (h : r.Tracks history live) (hnamed : checkNamed named = .ok ())
    (hphase : HookPhase.resolve phase = .ok p) (key : String) (arguments : List Value) :
    r.dispatch run phase (.str key) arguments named =
      match history.hook? ⟨p, key⟩ with
      | some hook => do
        run ⟨hook.callback, arguments, named⟩
        return 1
      | none => return 0 := by
  have hkey : ∀ x ∈ live.filter (·.pair.phase == p),
      (Value.str key).same x.handler.key = true → x.pair = ⟨p, key⟩ := by
    intro x hx hsame
    have hsamePhase := beq_iff_eq.mp (List.mem_filter.mp hx).2
    rw [← hsamePhase, ← (x.same_key_iff key).mp hsame]
  unfold History.hook?
  rw [dispatch_of_checked hnamed hphase, h.handlersIn_eq]
  cases hheld : history.holding ⟨p, key⟩ with
  | none =>
      rw [Option.map_none]
      refine signalAll_of_none ?_
      rw [List.forall_mem_map]
      intro x hx hsame
      have hlive := (h.mem x).mp (List.mem_of_mem_filter hx)
      rw [hkey x hx hsame, hheld] at hlive
      cases hlive
  | some x =>
      obtain ⟨hx, hpair⟩ := (h.holding_eq_some_iff _ _).mp hheld
      have hmem : x ∈ live.filter (·.pair.phase == p) := by
        rw [List.mem_filter, hpair]
        exact ⟨hx, beq_self_eq_true p⟩
      obtain ⟨before, after, hsplit⟩ := List.append_of_mem hmem
      have hnodup : (live.filter (·.pair.phase == p)).Nodup :=
        (List.Nodup.of_map _ h.nodup_pairs).filter _
      -- no other live pair has the phase and the key, so only `x` answers the signal
      have hother : ∀ y ∈ before ++ after, ¬ (Value.str key).same y.handler.key = true := by
        intro y hy hsame
        rw [hsplit, List.nodup_middle, List.nodup_cons] at hnodup
        have hyFilter : y ∈ live.filter (·.pair.phase == p) := by
          rw [hsplit]
          simp only [List.mem_append, List.mem_cons] at hy ⊢
          tauto
        have hyx := h.eq_of_pair (List.mem_of_mem_filter hyFilter) hx
          ((hkey y hyFilter hsame).trans hpair.symm)
        exact hnodup.1 (hyx ▸ hy)
      have hsame : (Value.str key).same x.handler.key = true := by
        rw [x.same_key_iff, hpair]
      rw [hsplit, List.map_append, List.map_cons]
      refine signalAll_of_single ?_ hsame ?_
      · rw [List.forall_mem_map]
        exact fun y hy => hother y (List.mem_append_left _ hy)
      · rw [List.forall_mem_map]
        exact fun y hy => hother y (List.mem_append_right _ hy)

end Tracks

end Registry

/-! ### Declared hooks -/

namespace KeyedHook

theorem lastFor_append (front back : List KeyedHook) (pair : HookPair) :
    lastFor (front ++ back) pair = (lastFor back pair).or (lastFor front pair) := by
  rw [lastFor, List.reverse_append, List.find?_append]
  rfl

theorem lastFor_eq_none_iff (hooks : List KeyedHook) (pair : HookPair) :
    lastFor hooks pair = none ↔ ∀ hook ∈ hooks, hook.pair ≠ pair := by
  rw [lastFor, List.find?_eq_none]
  simp only [List.mem_reverse, decide_eq_true_iff]

theorem of_lastFor_eq_some {hooks : List KeyedHook} {pair : HookPair} {hook : KeyedHook}
    (h : lastFor hooks pair = some hook) : hook ∈ hooks ∧ hook.pair = pair := by
  constructor
  · exact List.mem_reverse.mp (List.mem_of_find?_eq_some h)
  · simpa using List.find?_some h

end KeyedHook

namespace Visit

/-- The visited declaration is a leaf with a full key and sets the slot of a
phase. -/
structure Declares (u : Visit) (p : HookPhase) (key : String) : Prop where
  isLeaf : u.node.hasChildren = false
  fullKey : Compile.fullKey u.ancestors u.node = key
  slot : u.node.sets p.slot = true

def keyedHook (u : Visit) (p : HookPhase) : KeyedHook where
  pair := ⟨p, Compile.fullKey u.ancestors u.node⟩
  callback := u.node.get p.slot
  entryName := u.node.name

def keyedHooks (u : Visit) : List KeyedHook :=
  if u.node.hasChildren then []
  else (HookPhase.all.filter fun p => u.node.sets p.slot).map u.keyedHook

theorem registrations_eq (u : Visit) :
    u.registrations = u.keyedHooks.map (·.registration) := by
  unfold registrations keyedHooks
  split
  · rfl
  · rw [List.map_map]
    rfl

theorem mem_keyedHooks_iff (u : Visit) (hook : KeyedHook) :
    hook ∈ u.keyedHooks ↔ ∃ p key, u.Declares p key ∧ u.keyedHook p = hook := by
  unfold keyedHooks
  constructor
  · intro h
    split at h
    · cases h
    · rename_i hleaf
      obtain ⟨p, hp, hhook⟩ := List.mem_map.mp h
      exact ⟨p, _, ⟨Bool.eq_false_iff.mpr hleaf, rfl, (List.mem_filter.mp hp).2⟩, hhook⟩
  · rintro ⟨p, key, hdeclares, hhook⟩
    rw [hdeclares.isLeaf, if_neg Bool.false_ne_true]
    exact List.mem_map.mpr ⟨p, List.mem_filter.mpr ⟨p.mem_all, hdeclares.slot⟩, hhook⟩

variable {p : HookPhase} {key : String}

theorem declares_of_mem_keyedHooks {u : Visit} {hook : KeyedHook} (h : hook ∈ u.keyedHooks)
    (hpair : hook.pair = ⟨p, key⟩) : u.Declares p key ∧ hook = u.keyedHook p := by
  obtain ⟨q, fullKey, hdeclares, rfl⟩ := (u.mem_keyedHooks_iff hook).mp h
  obtain ⟨rfl, hkey⟩ := HookPair.mk.inj hpair
  exact ⟨⟨hdeclares.isLeaf, hkey, hdeclares.slot⟩, rfl⟩

theorem lastFor_of_declares {u : Visit} (h : u.Declares p key) :
    KeyedHook.lastFor u.keyedHooks ⟨p, key⟩ = some (u.keyedHook p) := by
  have hmem : u.keyedHook p ∈ u.keyedHooks := (u.mem_keyedHooks_iff _).mpr ⟨p, key, h, rfl⟩
  have hpair : (u.keyedHook p).pair = ⟨p, key⟩ := by rw [keyedHook, h.fullKey]
  cases hlast : KeyedHook.lastFor u.keyedHooks ⟨p, key⟩ with
  | none => exact absurd hpair ((KeyedHook.lastFor_eq_none_iff _ _).mp hlast _ hmem)
  | some hook =>
      obtain ⟨hhook, hhookPair⟩ := KeyedHook.of_lastFor_eq_some hlast
      rw [(declares_of_mem_keyedHooks hhook hhookPair).2]

theorem lastFor_of_forall_not_declares {visits : List Visit}
    (h : ∀ u ∈ visits, ¬ u.Declares p key) :
    KeyedHook.lastFor (visits.flatMap keyedHooks) ⟨p, key⟩ = none := by
  rw [KeyedHook.lastFor_eq_none_iff]
  intro hook hhook hpair
  obtain ⟨u, hu, hmem⟩ := List.mem_flatMap.mp hhook
  exact h u hu (declares_of_mem_keyedHooks hmem hpair).1

/-- The hook for a pair is that of the last visited leaf that declares one. -/
theorem lastFor_of_last {before after : List Visit} {u : Visit} (hu : u.Declares p key)
    (hafter : ∀ w ∈ after, ¬ w.Declares p key) :
    KeyedHook.lastFor ((before ++ u :: after).flatMap keyedHooks) ⟨p, key⟩ =
      some (u.keyedHook p) := by
  rw [List.flatMap_append, List.flatMap_cons, KeyedHook.lastFor_append,
    KeyedHook.lastFor_append, lastFor_of_forall_not_declares hafter, lastFor_of_declares hu]
  rfl

end Visit

namespace Registry

/-- Declaring a forest stores the hooks of its leaves, in the order in which they
are compiled, and returns its records. -/
theorem declare_eq {plan : Plan} {v : Value} {c : Compilation}
    (hcompile : Compile.forest plan v = .ok c)
    (hcallable : ∀ u ∈ Forest.visits v, ∀ p : HookPhase, u.node.sets p.slot = true →
      (u.node.get p.slot).isCallable = true) (r : Registry) :
    r.declare plan v = (.ok c.records, r.insertAll
      (((Forest.compileOrder plan v).flatMap Visit.keyedHooks).map (·.handler))) := by
  have hhooks : c.hooks =
      ((Forest.compileOrder plan v).flatMap Visit.keyedHooks).map (·.registration) := by
    rw [(Compile.areOf_of_forest hcompile).hooks, List.map_flatMap]
    exact List.flatMap_congr fun u _ => u.registrations_eq
  have hall : ∀ hook ∈ (Forest.compileOrder plan v).flatMap Visit.keyedHooks,
      hook.callback.isCallable = true := by
    intro hook hhook
    obtain ⟨u, hu, hmem⟩ := List.mem_flatMap.mp hhook
    obtain ⟨p, key, hdeclares, rfl⟩ := (u.mem_keyedHooks_iff hook).mp hmem
    exact hcallable u ((Forest.compileOrder_perm plan v).mem_iff.mp hu) p hdeclares.slot
  rw [declare, hcompile]
  simp only [hhooks, registerAll_keyed hall]
  rfl

end Registry

/-- Declaring a compilable forest whose hooks can all be called, in any registry
that a run leads to, returns its records.  From then on a signal with a key runs
once the callback of the last compiled leaf with this full key that sets the slot
of the phase, with the arguments of the signal, and without such a leaf it does what it
did before.  Declaring the forest again changes nothing. -/
theorem declared_hooks_fire {plan : Plan} {v : Value} {c : Compilation}
    (hcompile : Compile.forest plan v = .ok c)
    (hcallable : ∀ u ∈ Forest.visits v, ∀ p : HookPhase, u.node.sets p.slot = true →
      (u.node.get p.slot).isCallable = true) (operations : List Operation) :
    let r := (Operation.performAll operations {}).registry
    List.Forall₂ (fun u e => Visit.entry plan.defaultType u = .ok e)
      (Forest.compileOrder plan v) c.entries ∧
    ∃ r', r.declare plan v = (.ok c.records, r') ∧ r'.declare plan v = (.ok c.records, r') ∧
      ∀ (σ : Type) (run : Call → Effect σ Unit) (args : List Value) (named : Pairs)
        (phase : Value) (p : HookPhase) (key : String), HookPhase.resolve phase = .ok p →
          (Registry.checkNamed named = .ok () → ∀ before u after,
            Forest.compileOrder plan v = before ++ u :: after → u.Declares p key →
              (∀ w ∈ after, ¬ w.Declares p key) →
                r'.dispatch run phase (.str key) args named = do
                  run ⟨u.node.get p.slot, args, named⟩
                  return 1) ∧
          ((∀ u ∈ Forest.compileOrder plan v, ¬ u.Declares p key) →
            r'.dispatch run phase (.str key) args named =
              r.dispatch run phase (.str key) args named) := by
  intro r
  obtain ⟨live, htracks⟩ : (Operation.performAll operations {}).IsTracked :=
    Operation.performAll_tracked operations ⟨[], Registry.Tracks.initial⟩
  have hdeclare := Registry.declare_eq hcompile hcallable
  refine ⟨(Compile.areOf_of_forest hcompile).entries, _, hdeclare r, ?_, ?_⟩
  · rw [hdeclare, htracks.recorded_twice]
  intro σ run args named phase p key hphase
  obtain ⟨live', htracks'⟩ :=
    htracks.exists_recorded ((Forest.compileOrder plan v).flatMap Visit.keyedHooks)
  constructor
  · intro hnamed before u after horder hu hafter
    rw [htracks'.dispatch_eq _ hnamed hphase, Run.hook?_record, horder,
      Visit.lastFor_of_last hu hafter]
    rfl
  · intro hnone
    cases hnamed : Registry.checkNamed named with
    | error e => rw [Registry.dispatch_of_refused hnamed, Registry.dispatch_of_refused hnamed]
    | ok _ =>
        rw [htracks'.dispatch_eq _ hnamed hphase, htracks.dispatch_eq _ hnamed hphase,
          Run.hook?_record, Visit.lastFor_of_forall_not_declares hnone]
        rfl

/-- Two leaves with one full key below different groups: the last one fires, in
place of a hook that was registered before. -/
theorem declared_hooks_fire_of_shared_key :
    let f (name : String) : Value := .callable (.function "cb" name)
    let leaf (name keys : String) : Value :=
      .node (.str name) [(.str "keys", .str keys), (.str "hook", f name)]
    let v : Value := .list [
      .node (.str "A") [(.str "keys", .str "a"), (.str "children", .list [leaf "B" "bc"])],
      .node (.str "AB") [(.str "keys", .str "ab"), (.str "children", .list [leaf "C" "c"])]]
    let old : KeyedHook := ⟨⟨.mode, "abc"⟩, f "old", .str "Old"⟩
    let r := (Operation.performAll [.register old] {}).registry
    ∃ c r', Compile.forest {} v = .ok c ∧ r.declare {} v = (.ok c.records, r') ∧
      ∀ (run : Call → Effect Unit Unit) (args : List Value),
        r'.dispatch run (.str "hook") (.str "abc") args [(.str "entry", .int 1)] = do
          run ⟨f "C", args, [(.str "entry", .int 1)]⟩
          return 1 := by
  intro f leaf v old r
  have hcallable : ∀ p ∈ HookPhase.all, ∀ u ∈ Forest.visits v, u.node.sets p.slot = true →
      (u.node.get p.slot).isCallable = true := by decide +kernel
  have horder : ∃ before u, Forest.compileOrder {} v = before ++ [u] ∧ u.Declares .mode "abc" ∧
      u.node.get "hook" = f "C" := by
    refine ⟨[_, _, _], _, rfl, ⟨rfl, ?_, rfl⟩, rfl⟩
    decide +kernel
  have hok : (Compile.forest {} v).toBool = true := by decide +kernel
  cases hcompile : Compile.forest {} v with
  | error e =>
      rw [hcompile] at hok
      cases hok
  | ok c =>
      obtain ⟨-, r', hdeclare, -, hfire⟩ :=
        declared_hooks_fire hcompile (fun u hu p => hcallable p p.mem_all u hu) [.register old]
      refine ⟨c, r', rfl, hdeclare, ?_⟩
      intro run args
      obtain ⟨before, u, hsplit, hu, hget⟩ := horder
      have hfires := (hfire Unit run args [(.str "entry", .int 1)] (.str "hook") .mode "abc" rfl).1 rfl
      rw [hfires before u [] hsplit hu (by simp), ← hget]
      rfl

end CaptureForest
