import CaptureForest.Proofs.Resolution
import CaptureForest.SharedSettings

/-!
# Runs with shared settings

The settings that compilations share are made when they are first needed, from what
the environment says then, and are kept until they are reset.  Two states in which
the same settings would be read are told apart only by a change of the environment
that comes before the settings are made in one of them.

A run is a list of steps.  Each invariant is shown for one step and carried along
the run: that every setting in force was given by a step, that states in which the
same is read stay so while the environment is not changed, and that settings which
are made stay the same whatever the environment becomes.
-/

namespace CaptureForest

/-- What is done with the shared settings: they are changed, read or dropped, settings
are built beside them, the environment is changed, or a forest is compiled, with
settings of its own or the shared ones. -/
inductive SettingsStep where
  | configure (changes : Pairs)
  | read
  | reset
  | build (fields : Pairs)
  | setEnvironment (word : Option String)
  | compile (own : Option Settings) (forest : Value)

/-- What a step answers. -/
inductive SettingsAnswer where
  | settings (result : Except Fault Settings)
  | compiled (result : Except Fault Compilation)
  | done

namespace Settings

/-- The settings pass the checks with which settings are built from named values. -/
def IsAccepted (c : Settings) : Prop := ofFields (Pairs.fields c.toFields) = .ok c

/-- Every setting was given as a value, or is as it is by default. -/
structure IsGiven (values : String → List Value) (c : Settings) : Prop where
  type : c.defaultType = .entry ∨
    ∃ v ∈ values "default_type", EntryType.ofValue v = .ok c.defaultType
  children : ∀ order, c.sortChildren = some order → .callable order ∈ values "sort_children"
  forest : ∀ order, c.sortForest = some order → .callable order ∈ values "sort_forest"

/-- The settings that are named have the values given for them, and the others are as
before.  What is given for the type spells its word (`EntryType.ofValue_eq_ok_iff`). -/
structure Replaces (before : Settings) (changes : Pairs) (c : Settings) : Prop where
  type : match Pairs.lookup? "default_type" changes with
    | some v => EntryType.ofValue v = .ok c.defaultType
    | none => c.defaultType = before.defaultType
  children : match Pairs.lookup? "sort_children" changes with
    | some v => v = orderValue c.sortChildren
    | none => c.sortChildren = before.sortChildren
  forest : match Pairs.lookup? "sort_forest" changes with
    | some v => v = orderValue c.sortForest
    | none => c.sortForest = before.sortForest

end Settings

namespace SettingsStep

def setsEnvironment : SettingsStep → Bool
  | .setEnvironment _ => true
  | _ => false

/-- The value that a step gives for a setting. -/
def given? (name : String) : SettingsStep → Option Value
  | .configure changes => Pairs.lookup? name changes
  | .setEnvironment word => if name = "default_type" then word.map .str else none
  | _ => none

/-- The values that the steps of a run give for a setting. -/
def givenBy (steps : List SettingsStep) (name : String) : List Value :=
  steps.filterMap (given? name)

/-- What a step makes of settings that are there already. -/
def onSettings (c : Settings) : SettingsStep → Settings
  | .configure changes =>
    if Settings.knows changes then
      match c.replace changes with
      | .ok c' => c'
      | .error _ => c
    else c
  | _ => c

end SettingsStep

namespace SharedSettings

/-- What reading the settings would give. -/
def reading (s : SharedSettings) : Except Fault Settings := s.get.map (·.1)

/-- A step, with its answer and what it leaves. -/
def perform (s : SharedSettings) : SettingsStep → SettingsAnswer × SharedSettings
  | .configure changes => (.settings (s.configure changes).1, (s.configure changes).2)
  | .read =>
    match s.get with
    | .ok (settings, s) => (.settings (.ok settings), s)
    | .error e => (.settings (.error e), s)
  | .reset => (.done, s.reset)
  | .build fields => (.settings (Settings.ofEnvironment s.environment fields), s)
  | .setEnvironment word => (.done, { s with environment := word })
  | .compile own forest =>
    match s.choose own with
    | .ok (settings, s) => (.compiled (Compile.forest settings.plan forest), s)
    | .error e => (.compiled (.error e), s)

/-- What a run leaves. -/
def after (s : SharedSettings) (steps : List SettingsStep) : SharedSettings :=
  steps.foldl (fun s step => (s.perform step).2) s

end SharedSettings

/-! ### Building settings -/

theorem EntryType.ofValue_entryType (t : EntryType) : ofValue (.entryType t) = .ok t :=
  (ofValue_eq_ok_iff _ t).mpr rfl

namespace Settings

theorem readType_eq_ok_iff (v : Value) (t : EntryType) :
    readType v = .ok t ↔ EntryType.ofValue v = .ok t := by
  unfold readType
  cases EntryType.ofValue v <;> simp

theorem orderValue_injective : Function.Injective orderValue := by
  intro order order' h
  cases order <;> cases order' <;> simp_all [orderValue]

theorem readOrder_eq_ok_iff (name : String) (v : Value) (order : Option Callable) :
    readOrder name v = .ok order ↔ v = orderValue order := by
  have hread : ∀ order', readOrder name v = .ok order' → v = orderValue order' := by
    intro order' h
    cases v <;> simp only [readOrder, reduceCtorEq, Except.ok.injEq] at h
    · rw [← h, orderValue]
    · rw [← h, orderValue]
  constructor
  · exact hread order
  · rintro rfl
    cases order <;> rfl

theorem ofValues_eq_ok_iff (type children forest : Value) (c : Settings) :
    ofValues type children forest = .ok c ↔
      EntryType.ofValue type = .ok c.defaultType ∧ children = orderValue c.sortChildren ∧
        forest = orderValue c.sortForest := by
  obtain ⟨t, order, order'⟩ := c
  rw [← readType_eq_ok_iff, ← readOrder_eq_ok_iff "sort_children",
    ← readOrder_eq_ok_iff "sort_forest", ofValues]
  cases readType type with
  | error e => simp [bind, Except.bind]
  | ok t' =>
      cases readOrder "sort_children" children with
      | error e => simp [bind, Except.bind]
      | ok o =>
          cases readOrder "sort_forest" forest with
          | error e => simp [bind, Except.bind]
          | ok o' => simp [bind, Except.bind, pure, Except.pure]

theorem replace_eq_ok_iff (before : Settings) (changes : Pairs) (c : Settings) :
    before.replace changes = .ok c ↔ before.Replaces changes c := by
  have horder : ∀ name (order order' : Option Callable),
      changed changes name (orderValue order) = orderValue order' ↔
        match Pairs.lookup? name changes with
        | some v => v = orderValue order'
        | none => order' = order := by
    intro name order order'
    unfold changed
    cases Pairs.lookup? name changes with
    | some v => rfl
    | none => exact orderValue_injective.eq_iff.trans eq_comm
  have htype : EntryType.ofValue (changed changes "default_type" (.entryType before.defaultType)) =
      .ok c.defaultType ↔
        match Pairs.lookup? "default_type" changes with
        | some v => EntryType.ofValue v = .ok c.defaultType
        | none => c.defaultType = before.defaultType := by
    unfold changed
    cases Pairs.lookup? "default_type" changes with
    | some v => rfl
    | none =>
        rw [Option.getD_none, EntryType.ofValue_entryType, Except.ok.injEq]
        exact eq_comm
  rw [replace, ofValues_eq_ok_iff, htype, horder, horder]
  constructor
  · rintro ⟨ht, hchildren, hforest⟩
    exact ⟨ht, hchildren, hforest⟩
  · rintro ⟨ht, hchildren, hforest⟩
    exact ⟨ht, hchildren, hforest⟩

theorem isAccepted (c : Settings) : c.IsAccepted := by
  have hfields : ofFields (Pairs.fields c.toFields) =
      ofValues (.entryType c.defaultType) (orderValue c.sortChildren) (orderValue c.sortForest) := by
    rfl
  rw [IsAccepted, hfields, ofValues_eq_ok_iff]
  exact ⟨EntryType.ofValue_entryType _, rfl, rfl⟩

theorem unknownNames_eq_nil_iff (changes : Pairs) :
    unknownNames changes = [] ↔
      ∀ key ∈ Pairs.keys changes, ∀ name, key.text? = some name → name ∈ names := by
  have hperm := List.mergeSort_perm
    (((Pairs.keys changes).filterMap Value.text?).filter fun name => !names.contains name)
    fun a b => decide (a ≤ b)
  have hempty : unknownNames changes = [] ↔
      ((Pairs.keys changes).filterMap Value.text?).filter (fun name => !names.contains name) = [] := by
    rw [← List.perm_nil, ← List.perm_nil]
    exact ⟨hperm.symm.trans, hperm.trans⟩
  rw [hempty, List.filter_eq_nil_iff]
  simp only [List.mem_filterMap, Bool.not_eq_true', Bool.not_eq_false, List.contains_iff_mem]
  constructor
  · intro h key hkey name hname
    exact h name ⟨key, hkey, hname⟩
  · rintro h name ⟨key, hkey, hname⟩
    exact h key hkey name hname

/-- All settings that are named exist if all names are texts and none of them is
unknown. -/
theorem knows_iff (changes : Pairs) :
    knows changes = true ↔
      (Pairs.keys changes).all Value.isText = true ∧ unknownNames changes = [] := by
  rw [knows, unknownNames_eq_nil_iff, List.all_eq_true, List.all_eq_true, ← forall₂_and]
  refine forall₂_congr fun key _ => ?_
  rw [Value.isAmong_iff, Value.isText]
  cases key.text? with
  | none => simp
  | some name => simp

end Settings

/-! ### Reading and changing -/

namespace SharedSettings

variable (s : SharedSettings)

/-- The settings that a state is left with when they are made or changed. -/
def keep (c : Settings) : SharedSettings := { s with current := some c }

theorem reading_of_current {c : Settings} (h : s.current = some c) : s.reading = .ok c := by
  rw [reading, get, h]
  rfl

theorem reading_of_none (h : s.current = none) :
    s.reading = Settings.ofEnvironment s.environment [] := by
  rw [reading, get, h]
  dsimp only
  cases Settings.ofEnvironment s.environment [] <;> rfl

/-- Settings that are read are kept from then on. -/
theorem get_eq : s.get = s.reading.map fun c => (c, s.keep c) := by
  obtain ⟨environment, current⟩ := s
  cases current with
  | some c => rfl
  | none =>
      rw [reading_of_none _ rfl, get]
      dsimp only
      cases Settings.ofEnvironment environment [] <;> rfl

/-- Changes that name what is no setting are refused alike in all states. -/
theorem configure_of_unknown {changes : Pairs} (h : Settings.knows changes = false) :
    ∃ e, ∀ s : SharedSettings, s.configure changes = (.error e, s) := by
  rw [← Bool.not_eq_true, Settings.knows_iff, not_and] at h
  unfold configure
  split
  · rename_i htexts
    split
    · rename_i hnames
      exact absurd hnames (h htexts)
    · exact ⟨_, fun _ => rfl⟩
  · exact ⟨_, fun _ => rfl⟩

/-- Changes to settings that exist: what was read is kept unless it is replaced. -/
theorem configure_of_known {changes : Pairs} (h : Settings.knows changes = true) :
    s.configure changes =
      match s.reading with
      | .error e => (.error e, s)
      | .ok before =>
        match before.replace changes with
        | .error e => (.error e, s.keep before)
        | .ok c => (.ok c, s.keep c) := by
  obtain ⟨htexts, hnames⟩ := (Settings.knows_iff changes).mp h
  rw [configure, if_pos htexts, hnames, get_eq]
  cases s.reading with
  | error e => rfl
  | ok before =>
      simp only [Except.map]
      cases before.replace changes <;> rfl

@[simp] theorem reading_keep (c : Settings) : (s.keep c).reading = .ok c :=
  reading_of_current _ rfl

theorem configure_eq_ok_iff (changes : Pairs) (c : Settings) :
    (s.configure changes).1 = .ok c ↔
      Settings.knows changes = true ∧
        ∃ before, s.reading = .ok before ∧ before.Replaces changes c := by
  simp only [← Settings.replace_eq_ok_iff]
  cases hknows : Settings.knows changes with
  | false =>
      obtain ⟨e, he⟩ := configure_of_unknown hknows
      simp [he]
  | true =>
      rw [s.configure_of_known hknows]
      cases s.reading with
      | error e => simp
      | ok before => cases hreplace : before.replace changes <;> simp [hreplace]

/-- Changes do nothing, or fail after the settings were read, or succeed; what was read
or replaced is kept. -/
theorem configure_cases (changes : Pairs) :
    (∃ e, s.configure changes = (.error e, s)) ∨
      (∃ e before, s.reading = .ok before ∧ s.configure changes = (.error e, s.keep before)) ∨
        ∃ before c, s.reading = .ok before ∧ before.Replaces changes c ∧
          s.configure changes = (.ok c, s.keep c) := by
  cases hknows : Settings.knows changes with
  | false =>
      obtain ⟨e, he⟩ := configure_of_unknown hknows
      exact .inl ⟨e, he s⟩
  | true =>
      rw [s.configure_of_known hknows]
      cases s.reading with
      | error e => exact .inl ⟨e, rfl⟩
      | ok before =>
          cases hreplace : before.replace changes with
          | error e => exact .inr (.inl ⟨e, before, rfl, by simp only [hreplace]⟩)
          | ok c =>
              have hreplaces := (Settings.replace_eq_ok_iff before changes c).mp hreplace
              exact .inr (.inr ⟨before, c, rfl, hreplaces, by simp only [hreplace]⟩)

/-- Changed settings are kept. -/
theorem configure_of_ok {changes : Pairs} {c : Settings} (h : (s.configure changes).1 = .ok c) :
    (s.configure changes).2 = s.keep c := by
  obtain ⟨e, he⟩ | ⟨e, before, -, he⟩ | ⟨before, c', -, -, hok⟩ := s.configure_cases changes
  · simp [he] at h
  · simp [he] at h
  · rw [hok] at h ⊢
    rw [← Except.ok.inj h]

/-- What a state is left with when its settings are needed. -/
def made : SharedSettings :=
  match s.reading with
  | .ok c => s.keep c
  | .error _ => s

theorem perform_read : (s.perform .read).2 = s.made := by
  rw [perform, get_eq, made]
  cases s.reading <;> rfl

theorem perform_compile (own : Option Settings) (forest : Value) :
    (s.perform (.compile own forest)).2 = if own.isSome then s else s.made := by
  cases own with
  | some settings => rfl
  | none =>
      rw [perform, choose, get_eq, made]
      cases s.reading <;> rfl

/-! ### States in which the same is read -/

/-- Two states with the same environment in which the same settings would be read. -/
structure Alike (s s' : SharedSettings) : Prop where
  environment : s.environment = s'.environment
  reading : s.reading = s'.reading

variable {s} {s' : SharedSettings}

theorem Alike.keep (h : s.Alike s') (c : Settings) : (s.keep c).Alike (s'.keep c) where
  environment := h.environment
  reading := by rw [reading_keep, reading_keep]

theorem Alike.made (h : s.Alike s') : s.made.Alike s'.made := by
  rw [SharedSettings.made, SharedSettings.made, ← h.reading]
  cases s.reading with
  | error e => exact h
  | ok c => exact h.keep c

/-- A step that does not change the environment leaves states in which the same is
read. -/
theorem Alike.perform (h : s.Alike s') {step : SettingsStep} (hstep : step.setsEnvironment = false) :
    (s.perform step).2.Alike (s'.perform step).2 := by
  cases step with
  | configure changes =>
      change (s.configure changes).2.Alike (s'.configure changes).2
      cases hknows : Settings.knows changes with
      | false =>
          obtain ⟨e, he⟩ := configure_of_unknown hknows
          rw [he, he]
          exact h
      | true =>
          rw [s.configure_of_known hknows, s'.configure_of_known hknows, ← h.reading]
          cases s.reading with
          | error e => exact h
          | ok before =>
              dsimp only
              cases before.replace changes with
              | error e => exact h.keep before
              | ok c => exact h.keep c
  | read =>
      rw [perform_read, perform_read]
      exact h.made
  | reset =>
      change s.reset.Alike s'.reset
      have henvironment : s.reset.environment = s'.reset.environment := h.environment
      refine ⟨henvironment, ?_⟩
      rw [reading_of_none _ rfl, reading_of_none _ rfl, henvironment]
  | build fields => exact h
  | setEnvironment word => cases hstep
  | compile own forest =>
      rw [perform_compile, perform_compile]
      split
      · exact h
      · exact h.made

theorem Alike.after (h : s.Alike s') {steps : List SettingsStep}
    (hsteps : ∀ step ∈ steps, step.setsEnvironment = false) :
    (s.after steps).Alike (s'.after steps) := by
  induction steps generalizing s s' with
  | nil => exact h
  | cons step rest ih =>
      exact ih (h.perform (hsteps step List.mem_cons_self))
        fun step' hstep' => hsteps step' (List.mem_cons_of_mem step hstep')

/-- Changes that are refused leave a state in which the same is read as before. -/
theorem alike_of_refused {changes : Pairs} {e : Fault} (h : (s.configure changes).1 = .error e) :
    (s.configure changes).2.Alike s := by
  obtain ⟨e', he⟩ | ⟨e', before, hreading, he⟩ | ⟨before, c, -, -, hok⟩ := s.configure_cases changes
  · rw [he]
    exact ⟨rfl, rfl⟩
  · rw [he]
    exact ⟨rfl, by rw [reading_keep, hreading]⟩
  · simp [hok] at h

/-! ### Settings that are there -/

theorem perform_of_current {c : Settings} (h : s.current = some c) {step : SettingsStep}
    (hstep : step ≠ .reset) : (s.perform step).2.current = some (step.onSettings c) := by
  have hreading := s.reading_of_current h
  have hmade : s.made.current = some c := by
    rw [made, hreading]
    rfl
  cases step with
  | configure changes =>
      change (s.configure changes).2.current = _
      rw [SettingsStep.onSettings]
      cases hknows : Settings.knows changes with
      | false =>
          obtain ⟨e, he⟩ := configure_of_unknown hknows
          rw [he]
          exact h
      | true =>
          rw [s.configure_of_known hknows, hreading, if_pos rfl]
          dsimp only
          cases c.replace changes <;> rfl
  | read =>
      rw [perform_read]
      exact hmade
  | reset => exact absurd rfl hstep
  | build fields => exact h
  | setEnvironment word => exact h
  | compile own forest =>
      rw [perform_compile]
      split
      · exact h
      · exact hmade

theorem after_of_current {c : Settings} (h : s.current = some c) {steps : List SettingsStep}
    (hsteps : .reset ∉ steps) :
    (s.after steps).current = some (steps.foldl SettingsStep.onSettings c) := by
  induction steps generalizing s c with
  | nil => exact h
  | cons step rest ih =>
      rw [List.mem_cons, not_or] at hsteps
      exact ih (perform_of_current h (Ne.symm hsteps.1)) hsteps.2

/-- Settings that are there do not depend on the environment. -/
theorem foldl_onSettings_filter (steps : List SettingsStep) (c : Settings) :
    (steps.filter fun step => !step.setsEnvironment).foldl SettingsStep.onSettings c =
      steps.foldl SettingsStep.onSettings c := by
  induction steps generalizing c with
  | nil => rfl
  | cons step rest ih =>
      cases step with
      | setEnvironment word => exact ih c
      | _ => exact ih _

/-- A compilation leaves settings that are there, and the environment, alone. -/
theorem perform_compile_of_current {c : Settings} (h : s.current = some c) (own : Option Settings)
    (forest : Value) : (s.perform (.compile own forest)).2 = s := by
  have hmade : s.made = s := by
    obtain ⟨environment, current⟩ := s
    cases h
    rfl
  rw [perform_compile, hmade, ite_self]

end SharedSettings

/-! ### Where settings come from -/

variable {values : String → List Value}

/-- Settings from the environment have the type that it names, or are as by default. -/
theorem Settings.isGiven_of_environment {environment : Option String} {c : Settings}
    (hword : ∀ word, environment = some word → .str word ∈ values "default_type")
    (h : ofEnvironment environment [] = .ok c) : c.IsGiven values := by
  have hdefault : ofFields [] = .ok c → c.IsGiven values := by
    rintro h
    cases h
    exact ⟨.inl rfl, nofun, nofun⟩
  cases environment with
  | none => exact hdefault h
  | some word =>
      rw [ofEnvironment] at h
      split at h
      · change ofValues (.str word) .none .none = .ok c at h
        obtain ⟨htype, hchildren, hforest⟩ := (ofValues_eq_ok_iff _ _ _ c).mp h
        have hchildren' : none = c.sortChildren := orderValue_injective hchildren
        have hforest' : none = c.sortForest := orderValue_injective hforest
        refine ⟨.inr ⟨.str word, hword word rfl, htype⟩, ?_, ?_⟩
        · rw [← hchildren']
          nofun
        · rw [← hforest']
          nofun
      · exact hdefault h

/-- Replaced settings are given by the changes, the others by what gave them before. -/
theorem Settings.IsGiven.replaces {before c : Settings} {changes : Pairs}
    (h : before.IsGiven values) (hreplaces : before.Replaces changes c)
    (hchanges : ∀ name v, Pairs.lookup? name changes = some v → v ∈ values name) :
    c.IsGiven values := by
  have horder : ∀ name (present order' : Option Callable),
      (match Pairs.lookup? name changes with
        | some v => v = orderValue order'
        | none => order' = present) →
      (∀ order, present = some order → .callable order ∈ values name) →
      ∀ order, order' = some order → .callable order ∈ values name := by
    rintro name present order' hchanged hpresent order rfl
    cases hlookup : Pairs.lookup? name changes with
    | some v =>
        rw [hlookup] at hchanged
        apply hchanges
        rw [hlookup, show v = orderValue (some order) from hchanged, orderValue]
    | none =>
        rw [hlookup] at hchanged
        exact hpresent order hchanged.symm
  refine ⟨?_, ?_, ?_⟩
  · have htype := hreplaces.type
    cases hlookup : Pairs.lookup? "default_type" changes with
    | some v =>
        rw [hlookup] at htype
        exact .inr ⟨v, hchanges _ v hlookup, htype⟩
    | none =>
        rw [hlookup] at htype
        rw [show c.defaultType = before.defaultType from htype]
        exact h.type
  · exact horder _ _ _ hreplaces.children h.children
  · exact horder _ _ _ hreplaces.forest h.forest

namespace SharedSettings

/-- The environment and the settings that are there were given. -/
structure IsGiven (values : String → List Value) (s : SharedSettings) : Prop where
  environment : ∀ word, s.environment = some word → .str word ∈ values "default_type"
  current : ∀ c, s.current = some c → c.IsGiven values

variable {s : SharedSettings}

theorem isGiven_of_none (h : s.current = none)
    (hword : ∀ word, s.environment = some word → .str word ∈ values "default_type") :
    s.IsGiven values := by
  refine ⟨hword, fun c hc => ?_⟩
  rw [h] at hc
  cases hc

theorem IsGiven.reading (h : s.IsGiven values) {c : Settings} (hc : s.reading = .ok c) :
    c.IsGiven values := by
  cases hcurrent : s.current with
  | none =>
      rw [s.reading_of_none hcurrent] at hc
      exact Settings.isGiven_of_environment h.environment hc
  | some c' =>
      rw [s.reading_of_current hcurrent] at hc
      rw [← Except.ok.inj hc]
      exact h.current c' hcurrent

theorem IsGiven.keep (h : s.IsGiven values) {c : Settings} (hc : c.IsGiven values) :
    (s.keep c).IsGiven values where
  environment := h.environment
  current := by
    rintro c' hc'
    rw [← Option.some.inj hc']
    exact hc

theorem IsGiven.made (h : s.IsGiven values) : s.made.IsGiven values := by
  rw [SharedSettings.made]
  cases hreading : s.reading with
  | error e => exact h
  | ok c => exact h.keep (h.reading hreading)

/-- What a step leaves was given before or is given by the step. -/
theorem IsGiven.perform (h : s.IsGiven values) {step : SettingsStep}
    (hstep : ∀ name v, step.given? name = some v → v ∈ values name) :
    (s.perform step).2.IsGiven values := by
  cases step with
  | configure changes =>
      change (s.configure changes).2.IsGiven values
      obtain ⟨e, he⟩ | ⟨e, before, hreading, he⟩ | ⟨before, c, hreading, hreplaces, hok⟩ :=
        s.configure_cases changes
      · rw [he]
        exact h
      · rw [he]
        exact h.keep (h.reading hreading)
      · rw [hok]
        exact h.keep ((h.reading hreading).replaces hreplaces hstep)
  | read =>
      rw [perform_read]
      exact h.made
  | reset => exact isGiven_of_none rfl h.environment
  | build fields => exact h
  | setEnvironment word =>
      refine ⟨fun word' hword' => ?_, h.current⟩
      apply hstep "default_type"
      rw [show word = some word' from hword']
      rfl
  | compile own forest =>
      rw [perform_compile]
      split
      · exact h
      · exact h.made

theorem IsGiven.after (h : s.IsGiven values) {steps : List SettingsStep}
    (hsteps : ∀ step ∈ steps, ∀ name v, step.given? name = some v → v ∈ values name) :
    (s.after steps).IsGiven values := by
  induction steps generalizing s with
  | nil => exact h
  | cons step rest ih =>
      exact ih (h.perform (hsteps step List.mem_cons_self))
        fun step' hstep' => hsteps step' (List.mem_cons_of_mem step hstep')

/-- After a run from a fresh start every setting was given by a step of the run. -/
theorem isGiven_run (steps : List SettingsStep) :
    (after {} steps).IsGiven (SettingsStep.givenBy steps) := by
  have hfresh : IsGiven (SettingsStep.givenBy steps) {} := isGiven_of_none rfl nofun
  apply hfresh.after
  intro step hstep name v hv
  exact List.mem_filterMap.mpr ⟨step, hstep, hv⟩

/-! ### What a run keeps to -/

/-- The shared settings are valid, and change only as they are asked to. -/
structure ChangesAsAsked (values : String → List Value) (s : SharedSettings) : Prop where
  /-- Settings that are there pass the checks, and each was given or is the default. -/
  valid : ∀ c, s.current = some c → c.IsAccepted ∧ c.IsGiven values
  /-- Changes succeed if they name settings only and the values are fit to replace those
  of the settings that would have been read. -/
  succeeds_iff : ∀ changes c, (s.configure changes).1 = .ok c ↔
    Settings.knows changes = true ∧ ∃ before, s.reading = .ok before ∧ before.Replaces changes c
  /-- The settings that successful changes yield are those read afterwards. -/
  kept : ∀ changes c, (s.configure changes).1 = .ok c → (s.configure changes).2.reading = .ok c
  /-- After changes that fail the same is read as without them, while the environment
  stays as it is. -/
  refused : ∀ changes e, (s.configure changes).1 = .error e →
    ∀ rest : List SettingsStep, (∀ step ∈ rest, step.setsEnvironment = false) →
      ((s.configure changes).2.after rest).reading = (s.after rest).reading
  /-- Settings that are read are there from then on. -/
  read : ∀ c, (s.perform .read).1 = .settings (.ok c) → (s.perform .read).2.current = some c
  /-- Once settings are there, until they are reset, it makes no difference to what is
  read whether the environment is changed. -/
  fixed : ∀ c, s.current = some c → ∀ rest : List SettingsStep, .reset ∉ rest →
    ∃ c', (s.after rest).reading = .ok c' ∧
      (s.after (rest.filter fun step => !step.setsEnvironment)).reading = .ok c'
  /-- A compilation changes nothing about settings that are there. -/
  compiles : ∀ c, s.current = some c → ∀ own forest, (s.perform (.compile own forest)).2 = s

theorem answer_read (s : SharedSettings) : (s.perform .read).1 = .settings s.reading := by
  rw [perform, get_eq]
  cases s.reading <;> rfl

/-- Settings that are there are, until they are reset, the same in the end whether the
environment is changed on the way or not. -/
theorem reading_of_filter {c : Settings} (h : s.current = some c) {rest : List SettingsStep}
    (hrest : .reset ∉ rest) : ∃ c', (s.after rest).reading = .ok c' ∧
      (s.after (rest.filter fun step => !step.setsEnvironment)).reading = .ok c' := by
  have hfilter : .reset ∉ rest.filter fun step => !step.setsEnvironment :=
    fun hreset => hrest (List.mem_filter.mp hreset).1
  refine ⟨rest.foldl SettingsStep.onSettings c, ?_, ?_⟩
  · exact reading_of_current _ (after_of_current h hrest)
  · rw [← foldl_onSettings_filter]
    exact reading_of_current _ (after_of_current h hfilter)

/-- After every run from a fresh start the shared settings are valid and change only as
asked: what was in force before is replaced where changes that succeed name it, and
neither changes that fail nor the environment nor a compilation replaces anything. -/
theorem changesAsAsked_of_run (steps : List SettingsStep) :
    (after {} steps).ChangesAsAsked (SettingsStep.givenBy steps) where
  valid c hc := ⟨c.isAccepted, (isGiven_run steps).current c hc⟩
  succeeds_iff := configure_eq_ok_iff _
  kept changes c hc := by rw [configure_of_ok _ hc, reading_keep]
  refused changes e he rest hrest := ((alike_of_refused he).after hrest).reading
  read c hc := by
    rw [answer_read] at hc
    rw [perform_read, made, SettingsAnswer.settings.inj hc]
    rfl
  fixed c hc rest hrest := reading_of_filter hc hrest
  compiles c hc own forest := perform_compile_of_current hc own forest

end SharedSettings

end CaptureForest
