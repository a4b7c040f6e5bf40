import CaptureForest.Registry.Dispatch

/-!
# Signals to handlers

What is true of a state before a signal is true after it if the callbacks keep
it.  A signal runs the callbacks of the handlers with the active key and no
others, so it has no effect if there is no such handler, and the effect of a
single callback if there is one such handler.
-/

namespace CaptureForest

namespace Effect

variable {σ α β : Type} {x : Effect σ α} {s t : σ}

theorem bind_of_ok {a : α} (h : x s = (.ok a, t)) (f : α → Effect σ β) :
    (x >>= f) s = f a t := by
  simp only [bind, ExceptT.bind, ExceptT.mk, StateT.bind, h]
  rfl

theorem bind_of_error {e : Fault} (h : x s = (.error e, t)) (f : α → Effect σ β) :
    (x >>= f) s = (.error e, t) := by
  simp only [bind, ExceptT.bind, ExceptT.mk, StateT.bind, h]
  rfl

/-- A computation that ends in good states, followed by one that keeps states good. -/
theorem bind_keeps {P : σ → Prop} {f : α → Effect σ β} (hx : P (x s).2)
    (hf : ∀ a t, P t → P (f a t).2) : P ((x >>= f) s).2 := by
  cases hstep : x s with
  | mk result t =>
      rw [hstep] at hx
      cases result with
      | error e =>
          rw [bind_of_error hstep]
          exact hx
      | ok a =>
          rw [bind_of_ok hstep]
          exact hf a t hx

end Effect

variable {σ : Type} {run : Value → Effect σ Unit} {active : Value}

namespace Handler

theorem signal_of_same {h : Handler} (hsame : active.same h.key = true) :
    h.signal run active = do
      run h.callback
      return true := by
  rw [signal, if_pos hsame]

theorem signal_of_not_same {h : Handler} (hsame : ¬ active.same h.key = true) :
    h.signal run active = return false := by
  rw [signal, if_neg hsame]

end Handler

namespace Registry

section Invariant

variable {P : σ → Prop} (hrun : ∀ callback s, P s → P (run callback s).2)

include hrun

theorem signal_keeps (active : Value) (h : Handler) {s : σ} (hs : P s) :
    P (h.signal run active s).2 := by
  by_cases hsame : active.same h.key = true
  · rw [Handler.signal_of_same hsame]
    exact Effect.bind_keeps (hrun _ s hs) fun _ _ ht => ht
  · rw [Handler.signal_of_not_same hsame]
    exact hs

theorem signalAll_keeps (active : Value) (handlers : List Handler) {s : σ} (hs : P s) :
    P (signalAll run active handlers s).2 := by
  induction handlers generalizing s with
  | nil => exact hs
  | cons h rest ih =>
      rw [signalAll]
      refine Effect.bind_keeps (signal_keeps hrun active h hs) fun ran t ht => ?_
      exact Effect.bind_keeps (ih ht) fun _ _ hu => hu

end Invariant

/-- A signal keeps what the calls of callbacks keep. -/
theorem dispatch_keeps {P : σ → Prop} {run : Call → Effect σ Unit}
    (hrun : ∀ call s, P s → P (run call s).2) (r : Registry) (phase active : Value)
    (arguments : List Value) (named : Pairs) {s : σ} (hs : P s) :
    P (r.dispatch run phase active arguments named s).2 := by
  unfold dispatch
  cases checkNamed named with
  | error e => exact hs
  | ok _ =>
      cases HookPhase.resolve phase with
      | error e => exact hs
      | ok p => exact signalAll_keeps (fun callback => hrun ⟨callback, arguments, named⟩) active _ hs

theorem signalAll_cons_of_not_same {h : Handler} (hsame : ¬ active.same h.key = true)
    (rest : List Handler) :
    signalAll run active (h :: rest) = signalAll run active rest := by
  rw [signalAll, Handler.signal_of_not_same hsame]
  simp

theorem signalAll_of_none {handlers : List Handler}
    (h : ∀ x ∈ handlers, ¬ active.same x.key = true) :
    signalAll run active handlers = return 0 := by
  induction handlers with
  | nil => rfl
  | cons x rest ih =>
      rw [signalAll_cons_of_not_same (h x List.mem_cons_self)]
      exact ih fun y hy => h y (List.mem_cons_of_mem _ hy)

/-- If a single handler has the active key, its callback runs once. -/
theorem signalAll_of_single {before after : List Handler} {h : Handler}
    (hbefore : ∀ x ∈ before, ¬ active.same x.key = true) (hsame : active.same h.key = true)
    (hafter : ∀ x ∈ after, ¬ active.same x.key = true) :
    signalAll run active (before ++ h :: after) = do
      run h.callback
      return 1 := by
  induction before with
  | nil =>
      rw [List.nil_append, signalAll, Handler.signal_of_same hsame, signalAll_of_none hafter]
      simp
  | cons x rest ih =>
      rw [List.cons_append, signalAll_cons_of_not_same (hbefore x List.mem_cons_self)]
      exact ih fun y hy => hbefore y (List.mem_cons_of_mem _ hy)

theorem dispatch_of_checked {run : Call → Effect σ Unit} {phase : Value} {p : HookPhase}
    {named : Pairs} (hnamed : checkNamed named = .ok ()) (hphase : HookPhase.resolve phase = .ok p)
    (r : Registry) (active : Value) (arguments : List Value) :
    r.dispatch run phase active arguments named =
      signalAll (fun callback => run ⟨callback, arguments, named⟩) active (r.handlersIn p) := by
  simp only [dispatch, hnamed, hphase]

/-- Named arguments that cannot be passed on are refused before all else. -/
theorem dispatch_of_refused {named : Pairs} {e : Fault} (hnamed : checkNamed named = .error e)
    (r : Registry) (run : Call → Effect σ Unit) (phase active : Value) (arguments : List Value) :
    r.dispatch run phase active arguments named = throw e := by
  simp only [dispatch, hnamed]

end Registry

end CaptureForest
