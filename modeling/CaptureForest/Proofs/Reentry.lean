import CaptureForest.Proofs.Firing

/-!
# Signals whose callbacks reach the registry

A callback may do anything to the state that it is called in, and the registry
may be a part of that state.  A signal takes the handlers as they are when it
comes, and by the history of the registry at most one of them has the phase and
the key.  So a signal makes one call or none, and leaves the state and the failure
that the call leaves.
-/

namespace CaptureForest

/-- The effect of a call, beside which all calls are written down. -/
def Effect.logged {σ : Type} (run : Call → Effect σ Unit) (call : Call) :
    Effect (σ × List Call) Unit := fun (s, calls) =>
  let (result, s') := run call s
  (result, s', calls ++ [call])

namespace Registry

namespace Tracks

variable {r : Registry} {history : History} {live : List Holding} {p : HookPhase} {key : String}

theorem exists_holding_of_mem_handlersIn (h : r.Tracks history live) {handler : Handler}
    (hmem : handler ∈ r.handlersIn p) (hkey : handler.key = .str key) :
    ∃ x, history.holding ⟨p, key⟩ = some x ∧ x.handler = handler := by
  rw [h.handlersIn_eq] at hmem
  obtain ⟨x, hx, rfl⟩ := List.mem_map.mp hmem
  obtain ⟨hlive, hphase⟩ := List.mem_filter.mp hx
  have hpair : x.pair = ⟨p, key⟩ := by
    rw [← beq_iff_eq.mp hphase, ← Value.str.inj hkey]
    rfl
  exact ⟨x, (h.holding_eq_some_iff ⟨p, key⟩ x).mpr ⟨hlive, hpair⟩, rfl⟩

theorem holding_eq_none (h : r.Tracks history live)
    (hnone : ∀ handler ∈ r.handlersIn p, handler.key ≠ .str key) :
    history.holding ⟨p, key⟩ = none := by
  cases hheld : history.holding ⟨p, key⟩ with
  | none => rfl
  | some x =>
      obtain ⟨hlive, hpair⟩ := (h.holding_eq_some_iff ⟨p, key⟩ x).mp hheld
      have hmem : x.handler ∈ r.handlersIn p := by
        rw [h.handlersIn_eq]
        apply List.mem_map_of_mem
        rw [List.mem_filter, hpair]
        exact ⟨hlive, beq_self_eq_true p⟩
      have hkey : x.handler.key = .str key := by
        change Value.str x.pair.key = .str key
        rw [hpair]
      exact absurd hkey (hnone x.handler hmem)

end Tracks

variable {σ : Type} {run : Call → Effect σ Unit} {call : Call} {s s' : σ} {calls : List Call}

theorem logged_of_ok (h : run call s = (.ok (), s')) :
    Effect.logged run call (s, calls) = (.ok (), s', calls ++ [call]) := by
  simp only [Effect.logged, h]

theorem logged_of_error {e : Fault} (h : run call s = (.error e, s')) :
    Effect.logged run call (s, calls) = (.error e, s', calls ++ [call]) := by
  simp only [Effect.logged, h]

theorem dispatch_of_unknown {phase : Value} {named : Pairs} (hnamed : checkNamed named = .ok ())
    (h : ∀ p, HookPhase.resolve phase ≠ .ok p) (r : Registry) (active : Value)
    (arguments : List Value) :
    r.dispatch run phase active arguments named s =
      (.error (.capture (.hookTarget phase HookPhase.words)), s) := by
  simp only [dispatch, hnamed]
  cases hphase : HookPhase.resolve phase with
  | ok p => exact absurd hphase (h p)
  | error e =>
      unfold HookPhase.resolve at hphase
      cases hname : phase.text?.bind HookPhase.ofName? with
      | some p => simp [hname] at hphase
      | none =>
          simp only [hname, Except.error.injEq] at hphase
          rw [← hphase]
          rfl

end Registry

/-- A signal for a phase and a key calls the one handler that is live for them in
the registry of the state, and no other, whatever the call does to the state: the
signal ends in the state that the call leaves, and fails as the call fails.
Without such a handler, if the phase is unknown or if the named arguments cannot be
passed on, nothing is called. -/
theorem signal_makes_one_call (operations : List Operation) {σ : Type} (registry : σ → Registry)
    (run : Call → Effect σ Unit) (arguments : List Value) (named : Pairs) {s : σ}
    (hs : registry s = (Operation.performAll operations {}).registry) (calls : List Call)
    (phase : Value) (key : String) :
    let call (callback : Value) : Call := ⟨callback, arguments, named⟩
    let signal := (registry s).dispatch (Effect.logged run) phase (.str key) arguments named
      (s, calls)
    (∀ e, Registry.checkNamed named = .error e → signal = (.error e, s, calls)) ∧
    (Registry.checkNamed named = .ok () →
      (∀ p, HookPhase.resolve phase = .ok p →
        (∀ h ∈ (registry s).handlersIn p, h.key = .str key →
          (∀ h' ∈ (registry s).handlersIn p, h'.key = .str key → h' = h) ∧
          (∀ s', run (call h.callback) s = (.ok (), s') →
            signal = (.ok 1, s', calls ++ [call h.callback])) ∧
          ∀ e s', run (call h.callback) s = (.error e, s') →
            signal = (.error e, s', calls ++ [call h.callback])) ∧
        ((∀ h ∈ (registry s).handlersIn p, h.key ≠ .str key) → signal = (.ok 0, s, calls))) ∧
      ((∀ p, HookPhase.resolve phase ≠ .ok p) →
        signal = (.error (.capture (.hookTarget phase HookPhase.words)), s, calls))) := by
  intro call signal
  obtain ⟨live, htracks⟩ : (Operation.performAll operations {}).IsTracked :=
    Operation.performAll_tracked operations ⟨[], Registry.Tracks.initial⟩
  rw [← hs] at htracks
  have hrefused : ∀ e, Registry.checkNamed named = .error e → signal = (.error e, s, calls) := by
    intro e he
    change (registry s).dispatch _ _ _ _ _ _ = _
    rw [Registry.dispatch_of_refused he]
    rfl
  refine ⟨hrefused, fun hnamed => ⟨fun p hphase => ?_, ?unknown⟩⟩
  case unknown => exact fun hunknown => Registry.dispatch_of_unknown hnamed hunknown _ _ _
  have hsignal := htracks.dispatch_eq (Effect.logged run) hnamed hphase key arguments
  constructor
  · intro h hmem hkey
    obtain ⟨x, hheld, hx⟩ := htracks.exists_holding_of_mem_handlersIn hmem hkey
    have hcallback : x.hook.callback = h.callback := by
      rw [← hx]
      rfl
    rw [History.hook?, hheld, Option.map_some] at hsignal
    simp only [hcallback] at hsignal
    refine ⟨?_, ?_, ?_⟩
    · intro h' hmem' hkey'
      obtain ⟨y, hheld', hy⟩ := htracks.exists_holding_of_mem_handlersIn hmem' hkey'
      rw [hheld, Option.some.injEq] at hheld'
      rw [← hy, ← hheld', hx]
    · intro s' hrun
      change (registry s).dispatch _ _ _ _ _ _ = _
      rw [hsignal, Effect.bind_of_ok (Registry.logged_of_ok hrun)]
      rfl
    · intro e s' hrun
      change (registry s).dispatch _ _ _ _ _ _ = _
      rw [hsignal, Effect.bind_of_error (Registry.logged_of_error hrun)]
  · intro hnone
    change (registry s).dispatch _ _ _ _ _ _ = _
    rw [hsignal, History.hook?, htracks.holding_eq_none hnone]
    rfl

/-- The callback removes all handlers, its own among them, registers another for
the same phase and key, and fails: that other one is live, but is not called. -/
theorem signal_makes_one_call_of_replacement :
    let f (name : String) : Value := .callable (.function "cb" name)
    let hook (key name : String) : KeyedHook := ⟨⟨.mode, key⟩, f name, .str name⟩
    let everything : Except Fault Registry.KeySearch := .ok (.inTexts fun _ => true)
    let s := Operation.performAll [.registerAll [hook "a" "first", hook "b" "other"]] {}
    let s' := Operation.performAll [.remove everything (.value .none) true, .register (hook "a" "second")] s
    let run : Call → Effect Run Unit := fun _ t =>
      (.error (.badValue "boom"),
        Operation.performAll [.remove everything (.value .none) true, .register (hook "a" "second")] t)
    s.registry.dispatch (Effect.logged run) (.str "hook") (.str "a") [.int 1] [] (s, []) =
      (.error (.badValue "boom"), s', [⟨f "first", [.int 1], []⟩]) ∧
      s'.registry.handlers.map (·.callback.plain) = ["<function second>"] := by
  intro f hook everything s s' run
  have hmem : (hook "a" "first").handler ∈ s.registry.handlersIn .mode := List.Mem.head _
  have hsignal := (signal_makes_one_call [.registerAll [hook "a" "first", hook "b" "other"]]
    Run.registry run [.int 1] [] (s := s) rfl [] (.str "hook") "a").2 rfl
  exact ⟨((hsignal.1 .mode rfl).1 _ hmem rfl).2.2 _ s' rfl, by decide +kernel⟩

end CaptureForest
