import CaptureForest.Proofs.FirstFailure
import CaptureForest.Reference

/-!
# Where references are resolved

Resolving a document goes through its declarations and replaces the references in
them by what they name.  What can fail on this way are the references in callable
slots.  A run through the document succeeds or fails just as a run through its
references does, in the order in which they are met.
-/

namespace CaptureForest

namespace Fault

/-- An error about a declaration file or about a reference in it. -/
def IsLoad (f : Fault) : Prop := ∃ e file, f = .capture e ∧ e.cause = .load file

theorem not_isLoad_host (e : HostFault) : ¬ IsLoad (.host e) := by
  rintro ⟨_, _, hf, -⟩
  cases hf

end Fault

namespace Reference

/-! ### Single references -/

theorem startsWith_dot_iff (text : String) :
    Text.startsWith text "." = true ↔ ∃ rest, text.toList = '.' :: rest := by
  have hdot : ".".toList = ['.'] := rfl
  rw [Text.startsWith, hdot, List.isPrefixOf_iff_prefix]
  constructor
  · rintro ⟨rest, hrest⟩
    exact ⟨rest, hrest.symm⟩
  · rintro ⟨rest, hrest⟩
    exact ⟨rest, hrest.symm⟩

theorem cutAt_dot {text : String} (h : Text.startsWith text "." = true) :
    (Text.cutAt ':' text).1 ≠ "" ∧ Text.startsWith (Text.cutAt ':' text).1 "." = true := by
  obtain ⟨rest, hrest⟩ := (startsWith_dot_iff text).mp h
  have hname : (Text.cutAt ':' text).1.toList = '.' :: rest.takeWhile (· != ':') := by
    simp [Text.cutAt, hrest]
  constructor
  · intro hempty
    rw [hempty] at hname
    cases hname
  · exact (startsWith_dot_iff _).mpr ⟨_, hname⟩

theorem resolve_of_relative (catalog : Catalog) {text : String}
    (h : Text.startsWith text "." = true) : resolve catalog text = .error .wrongType := by
  obtain ⟨hname, hdot⟩ := cutAt_dot h
  unfold resolve resolveText
  simp [hname, hdot]

mutual

/-- The references in callable slots in the order in which they are met. -/
def references : Value → List String
  | .list items => referencesOfItems items
  | .map pairs => referencesOfPairs pairs
  | _ => []

def referencesOfItems : List Value → List String
  | [] => []
  | item :: rest => references item ++ referencesOfItems rest

def referencesOfPairs : List (Value × Value) → List String
  | [] => []
  | (k, v) :: rest =>
    (if Keyword.callables.contains (Keyword.spelled k) && isReference v then v.text?.toList
    else if Keyword.spelled k == "children" then references v
    else []) ++ referencesOfPairs rest

end

/-- A single reference is met: it is enough that it names something. -/
def attempt (catalog : Catalog) (text : String) : Except Fault Unit :=
  (resolve catalog text).map fun _ => ()

theorem attempt_eq_ok_iff (catalog : Catalog) (text : String) :
    (∃ u, attempt catalog text = .ok u) ↔ ∃ v, resolve catalog text = .ok v := by
  unfold attempt
  cases resolve catalog text <;> simp [Except.map]

theorem attempt_eq_error_iff (catalog : Catalog) (text : String) (f : Fault) :
    attempt catalog text = .error f ↔ resolve catalog text = .error f := by
  unfold attempt
  cases resolve catalog text <;> simp [Except.map]

theorem eq_str_of_isReference {v : Value} (h : isReference v = true) : ∃ text, v = .str text := by
  cases v with
  | str text => exact ⟨text, rfl⟩
  | entryType t => cases t <;> cases h
  | phase p => cases p <;> cases h
  | _ => cases h

/-- What a value in a callable slot comes to. -/
theorem resolveValue_of_isReference (catalog : Catalog) {v : Value} (h : isReference v = true) :
    ∃ text, v = .str text ∧ resolveValue catalog v = resolve catalog text := by
  obtain ⟨text, rfl⟩ := eq_str_of_isReference h
  exact ⟨text, rfl, rfl⟩

variable (catalog : Catalog)

mutual

theorem resolveIn_eq_forM : ∀ v : Value,
    (resolveIn catalog v).map (fun _ => ()) = forM (references v) (attempt catalog)
  | .list items => by
    rw [resolveIn, references, ← resolveItems_eq_forM items]
    cases resolveItems catalog items <;> rfl
  | .map pairs => by
    rw [resolveIn, references, ← resolvePairs_eq_forM pairs]
    cases resolvePairs catalog pairs <;> rfl
  | .none | .bool _ | .int _ | .float _ | .str _ | .bytes _ | .tuple _ | .node .. | .callable _
  | .path _ | .entryType _ | .phase _ | .foreign .. => by rfl

theorem resolveItems_eq_forM : ∀ items : List Value,
    (resolveItems catalog items).map (fun _ => ()) =
      forM (referencesOfItems items) (attempt catalog)
  | [] => rfl
  | item :: rest => by
    rw [resolveItems, referencesOfItems, List.forM_append, ← resolveIn_eq_forM item,
      ← resolveItems_eq_forM rest]
    cases resolveIn catalog item with
    | error e => rfl
    | ok v => cases resolveItems catalog rest <;> rfl

theorem resolvePairs_eq_forM : ∀ pairs : List (Value × Value),
    (resolvePairs catalog pairs).map (fun _ => ()) =
      forM (referencesOfPairs pairs) (attempt catalog)
  | [] => rfl
  | (k, v) :: rest => by
    rw [resolvePairs, referencesOfPairs, List.forM_append, ← resolvePairs_eq_forM rest]
    by_cases hslot : (Keyword.callables.contains (Keyword.spelled k) && isReference v) = true
    · obtain ⟨text, rfl, hresolve⟩ :=
        resolveValue_of_isReference catalog (Bool.and_eq_true_iff.mp hslot).2
      rw [if_pos hslot, if_pos hslot, hresolve]
      have hsingle : forM (Value.str text).text?.toList (attempt catalog) =
          attempt catalog text := by
        change forM [text] (attempt catalog) = _
        rw [List.forM_cons, List.forM_nil]
        exact bind_pure_unit
      rw [hsingle, attempt]
      cases resolve catalog text with
      | error e => rfl
      | ok w => cases resolvePairs catalog rest <;> rfl
    · rw [if_neg hslot, if_neg hslot]
      by_cases hchildren : (Keyword.spelled k == "children") = true
      · rw [if_pos hchildren, if_pos hchildren, ← resolveIn_eq_forM v]
        cases resolveIn catalog v with
        | error e => rfl
        | ok w => cases resolvePairs catalog rest <;> rfl
      · rw [if_neg hchildren, if_neg hchildren]
        cases resolvePairs catalog rest <;> rfl

end

/-- A document fails with the first of its references that does. -/
theorem resolveIn_eq_error_iff (v : Value) (f : Fault) :
    resolveIn catalog v = .error f ↔ FailsFirst (resolve catalog) (references v) f := by
  have hfails : FailsFirst (attempt catalog) (references v) f ↔
      FailsFirst (resolve catalog) (references v) f := by
    simp only [FailsFirst, attempt_eq_ok_iff, attempt_eq_error_iff]
  rw [← hfails, ← forM_eq_error_iff, ← resolveIn_eq_forM]
  cases resolveIn catalog v <;> simp [Except.map]

end Reference

end CaptureForest
