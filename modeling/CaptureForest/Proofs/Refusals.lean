import CaptureForest.Proofs.Configuring

/-!
# Changes that are refused

Changes of the shared settings that are refused replace nothing, but settings that
had to be made before the refusal are kept, from what the environment said then.
Deleting the refused step from a run therefore changes no other answer, unless the
settings are first needed after the environment was changed.

The comparison of the two runs rests on one invariant: as long as no step needs or
drops the settings, the states of the runs differ only in that one of them keeps the
settings already.
-/

namespace CaptureForest

namespace SettingsStep

/-- Whether the shared settings are needed for a step. -/
def needsSettings : SettingsStep → Bool
  | .configure changes => Settings.knows changes
  | .read => true
  | .compile own _ => own.isNone
  | _ => false

end SettingsStep

namespace SharedSettings

/-- What the steps of a run answer. -/
def answers (s : SharedSettings) : List SettingsStep → List SettingsAnswer
  | [] => []
  | step :: rest => (s.perform step).1 :: (s.perform step).2.answers rest

/-- What is read where a run first needs the settings, unless it drops them before. -/
def firstReading (s : SharedSettings) : List SettingsStep → Option (Except Fault Settings)
  | [] => none
  | .reset :: _ => none
  | step :: rest =>
    if step.needsSettings then some s.reading else (s.perform step).2.firstReading rest

/-- Without the step all other steps of the run answer the same. -/
def LeavesNoTrace (s : SharedSettings) (earlier : List SettingsStep) (step : SettingsStep)
    (later : List SettingsStep) : Prop :=
  (s.answers (earlier ++ step :: later)).eraseIdx earlier.length = s.answers (earlier ++ later)

/-! ### Answers of a run -/

variable (s : SharedSettings)

theorem length_answers (steps : List SettingsStep) : (s.answers steps).length = steps.length := by
  induction steps generalizing s with
  | nil => rfl
  | cons step rest ih => rw [answers, List.length_cons, List.length_cons, ih]

theorem answers_append (earlier later : List SettingsStep) :
    s.answers (earlier ++ later) = s.answers earlier ++ (s.after earlier).answers later := by
  induction earlier generalizing s with
  | nil => rfl
  | cons step rest ih =>
      rw [List.cons_append, answers, answers, ih, List.cons_append]
      rfl

theorem leavesNoTrace_iff (earlier : List SettingsStep) (step : SettingsStep)
    (later : List SettingsStep) :
    s.LeavesNoTrace earlier step later ↔
      ((s.after earlier).perform step).2.answers later = (s.after earlier).answers later := by
  have herase : (s.answers (earlier ++ step :: later)).eraseIdx earlier.length =
      s.answers earlier ++ ((s.after earlier).perform step).2.answers later := by
    rw [answers_append, List.eraseIdx_append_of_length_le (s.length_answers earlier ▸ Nat.le_refl _),
      length_answers, Nat.sub_self, answers, List.eraseIdx_cons_zero]
  rw [LeavesNoTrace, herase, answers_append, List.append_cancel_left_eq]

/-! ### Settings that are kept early -/

variable {s} {before : Settings}

theorem perform_keep_of_needsSettings (h : s.reading = .ok before) {step : SettingsStep}
    (hstep : step.needsSettings = true) : (s.keep before).perform step = s.perform step := by
  cases step with
  | configure changes =>
      rw [perform, perform, configure_of_known _ hstep, configure_of_known _ hstep, reading_keep, h]
      rfl
  | read =>
      rw [perform, perform, get_eq, get_eq, reading_keep, h]
      rfl
  | compile own forest =>
      obtain rfl : own = none := Option.isNone_iff_eq_none.mp hstep
      rw [perform, perform, choose, choose, get_eq, get_eq, reading_keep, h]
      rfl
  | reset => cases hstep
  | build fields => cases hstep
  | setEnvironment word => cases hstep

theorem perform_keep_of_not_needsSettings (s : SharedSettings) (before : Settings)
    {step : SettingsStep} (hstep : step.needsSettings = false) (hreset : step ≠ .reset) :
    (s.keep before).perform step = ((s.perform step).1, (s.perform step).2.keep before) := by
  cases step with
  | configure changes =>
      obtain ⟨e, he⟩ := configure_of_unknown hstep
      rw [perform, perform, he, he]
  | read => cases hstep
  | compile own forest =>
      cases own with
      | none => cases hstep
      | some settings => rfl
  | reset => exact absurd rfl hreset
  | build fields => rfl
  | setEnvironment word => rfl

theorem firstReading_of_needsSettings {step : SettingsStep} (hstep : step.needsSettings = true)
    (rest : List SettingsStep) : s.firstReading (step :: rest) = some s.reading := by
  cases step with
  | reset => cases hstep
  | _ => simp only [firstReading, hstep, if_true]

theorem firstReading_of_not_needsSettings {step : SettingsStep}
    (hstep : step.needsSettings = false) (hreset : step ≠ .reset) (rest : List SettingsStep) :
    s.firstReading (step :: rest) = (s.perform step).2.firstReading rest := by
  cases step with
  | reset => exact absurd rfl hreset
  | _ => simp only [firstReading, hstep, Bool.false_eq_true, if_false]

/-- It does not show in a run that settings are kept already, if they are the ones that
are read where the run first needs them. -/
theorem answers_keep {steps : List SettingsStep}
    (h : ∀ r, s.firstReading steps = some r → r = .ok before) :
    (s.keep before).answers steps = s.answers steps := by
  induction steps generalizing s with
  | nil => rfl
  | cons step rest ih =>
      by_cases hreset : step = .reset
      · rw [hreset]
        rfl
      cases hneeds : step.needsSettings with
      | true =>
          have hreading : s.reading = .ok before := h _ (firstReading_of_needsSettings hneeds rest)
          rw [answers, answers, perform_keep_of_needsSettings hreading hneeds]
      | false =>
          rw [firstReading_of_not_needsSettings hneeds hreset] at h
          rw [answers, answers, perform_keep_of_not_needsSettings s before hneeds hreset, ih h]

/-! ### Refused changes -/

theorem configure_of_refused {changes : Pairs} {e : Fault} (hknows : Settings.knows changes = true)
    (hreading : s.reading = .ok before) (h : before.replace changes = .error e) :
    s.configure changes = (.error e, s.keep before) := by
  simp only [configure_of_known s hknows, hreading, h]

/-- Refused changes leave the state as it is, or they keep settings that were not there
before. -/
theorem refusal_cases {changes : Pairs} {e : Fault} (h : (s.configure changes).1 = .error e) :
    ((s.configure changes).2 = s ∧
        (s.current.isSome = true ∨ Settings.knows changes = false ∨ ∃ f, s.reading = .error f)) ∨
      ∃ before, s.current = none ∧ Settings.knows changes = true ∧ s.reading = .ok before ∧
        (s.configure changes).2 = s.keep before := by
  cases hknows : Settings.knows changes with
  | false =>
      obtain ⟨e', he⟩ := configure_of_unknown hknows
      exact .inl ⟨by rw [he], .inr (.inl rfl)⟩
  | true =>
      cases hreading : s.reading with
      | error f =>
          refine .inl ⟨?_, .inr (.inr ⟨f, rfl⟩)⟩
          rw [configure_of_known s hknows, hreading]
      | ok before =>
          cases hreplace : before.replace changes with
          | ok c =>
              rw [configure_of_known s hknows, hreading] at h
              simp [hreplace] at h
          | error f =>
              rw [configure_of_refused hknows hreading hreplace]
              cases hcurrent : s.current with
              | none => exact .inr ⟨before, rfl, rfl, rfl, rfl⟩
              | some c =>
                  rw [s.reading_of_current hcurrent] at hreading
                  obtain rfl := Except.ok.inj hreading
                  refine .inl ⟨?_, .inl rfl⟩
                  rw [keep, ← hcurrent]

/-- The environment can be changed so that other settings would be made. -/
theorem exists_environment_ne (before : Settings) :
    ∃ word c, Settings.ofEnvironment word [] = .ok c ∧ c ≠ before := by
  by_cases htype : before.defaultType = .item
  · refine ⟨none, {}, rfl, ?_⟩
    rintro rfl
    cases htype
  · refine ⟨some "item", { defaultType := .item }, rfl, ?_⟩
    rintro rfl
    exact htype rfl

/-- Settings that are kept too early show where the environment is changed and the
settings are read. -/
theorem exists_answers_keep_ne (h : s.current = none) (before : Settings) :
    ∃ later, (s.keep before).answers later ≠ s.answers later := by
  obtain ⟨word, c, hc, hne⟩ := exists_environment_ne before
  refine ⟨[.setEnvironment word, .read], ?_⟩
  have hreading : ({ s with environment := word } : SharedSettings).reading = .ok c :=
    (reading_of_none { s with environment := word } h).trans hc
  have hkept : ({ s.keep before with environment := word } : SharedSettings).reading = .ok before :=
    reading_of_current _ rfl
  simp only [answers, perform, get_eq, hreading, hkept, Except.map]
  intro hanswers
  simp only [List.cons.injEq, true_and, and_true, SettingsAnswer.settings.injEq,
    Except.ok.injEq] at hanswers
  exact hne hanswers.symm

/-- Refused changes leave no trace in a run that first needs the settings when they
would be made as they would have been before the refusal.  They leave none in any run
exactly if settings were there already, if they name what is no setting, or if no
settings could be made from the environment. -/
theorem refusal_leaves_no_trace_iff (s : SharedSettings) (earlier : List SettingsStep)
    {changes : Pairs} {e : Fault} (h : ((s.after earlier).configure changes).1 = .error e) :
    ((∀ later, s.LeavesNoTrace earlier (.configure changes) later) ↔
        (s.after earlier).current.isSome = true ∨ Settings.knows changes = false ∨
          ∃ f, (s.after earlier).reading = .error f) ∧
      ∀ later, (∀ r, (s.after earlier).firstReading later = some r →
          r = (s.after earlier).reading) →
        s.LeavesNoTrace earlier (.configure changes) later := by
  simp only [leavesNoTrace_iff, perform]
  obtain ⟨hstate, hcause⟩ | ⟨before, hcurrent, hknows, hreading, hstate⟩ := refusal_cases h
  · rw [hstate]
    exact ⟨iff_of_true (fun _ => rfl) hcause, fun _ _ => rfl⟩
  · rw [hstate, hreading, hcurrent, hknows]
    refine ⟨iff_of_false ?_ (by simp), fun later hlater => answers_keep hlater⟩
    obtain ⟨later, hne⟩ := exists_answers_keep_ne hcurrent before
    exact fun hall => hne (hall later)

/-- No settings are there when a type that there is not is refused.  The environment
changes and changes back before they are needed. -/
theorem refusal_leaves_no_trace_iff_of_restored_environment :
    let earlier : List SettingsStep := [.setEnvironment (some "item")]
    let changes : Pairs := [(.str "default_type", .str "bogus")]
    let later : List SettingsStep := [.setEnvironment (some "plain"), .build [],
      .setEnvironment (some "item"), .compile none (.list []), .setEnvironment none, .read]
    (∃ e, ((after {} earlier).configure changes).1 = .error e) ∧
      LeavesNoTrace {} earlier (.configure changes) later := by
  intro earlier changes later
  have hrefused := @configure_of_refused (after {} earlier) { defaultType := .item } changes _ rfl rfl rfl
  refine ⟨⟨_, congrArg Prod.fst hrefused⟩, ?_⟩
  apply (refusal_leaves_no_trace_iff {} earlier (congrArg Prod.fst hrefused)).2
  intro r hr
  exact (Option.some.inj hr).symm

/-- The default type that the environment names is not read any more after a type that
there is not was refused. -/
theorem refusal_fixes_default_type :
    let changes : Pairs := [(.str "default_type", .str "bogus")]
    let later : List SettingsStep := [.setEnvironment (some "item"), .read]
    (∃ e, (configure changes {}).1 = .error e) ∧
      ¬ LeavesNoTrace {} [] (.configure changes) later := by
  intro changes later
  have hrefused := @configure_of_refused {} {} changes _ rfl rfl rfl
  refine ⟨⟨_, congrArg Prod.fst hrefused⟩, ?_⟩
  rw [leavesNoTrace_iff, after, List.foldl_nil, perform, hrefused]
  intro hanswers
  have hsettings : [SettingsAnswer.done, .settings (.ok {})] =
      [.done, .settings (.ok { defaultType := .item })] := hanswers
  cases hsettings

end SharedSettings

end CaptureForest
