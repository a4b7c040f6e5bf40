import CaptureForest.Compile.Basic
import CaptureForest.Proofs.Rules

/-!
# Resolving one declaration

What one visited declaration contributes to a compilation: the entry of a
group or of a leaf.  A sound leaf has a template, and its type is the only
demand that is not known to be met before it is resolved.
-/

namespace CaptureForest

/-- The text of the value is the word for an entry type. -/
def Value.NamesType (v : Value) : Prop := ∃ t : EntryType, v.text? = some t.word

def Declaration.HasKnownType (d : Declaration) : Prop :=
  (d.get "type").UnsetOr Value.NamesType

namespace Visit

/-- The entry of a visited declaration, whatever its children compile to. -/
def entry (defaultType : EntryType) (u : Visit) : Except Fault Entry :=
  let key := Compile.fullKey u.ancestors u.node
  match u.node.validate u.ancestors with
  | .error e => .error e
  | .ok () =>
    if u.node.hasChildren then .ok (.group key u.node.name)
    else
      match u.node.leaf defaultType u.ancestors key with
      | .error e => .error e
      | .ok l => .ok (.leaf l)

def typeError (u : Visit) : CaptureError :=
  unknownType u.node u.ancestors
    (unknownWord "entry type" (u.node.get "type") EntryType.words)

/-- A declaration that can be compiled as far as it goes by itself. -/
structure IsCompilable (u : Visit) : Prop where
  sound : u.node.IsSound
  type : u.node.hasChildren = false → u.node.HasKnownType

end Visit

/-- What is said about the first demand that keeps a visited declaration from
being compiled; the type of a leaf comes last. -/
inductive Offence (u : Visit) : CaptureError → Prop
  | violation {e : CaptureError} (h : Violation u e) : Offence u e
  | type (hsound : u.node.IsSound) (hchildren : u.node.hasChildren = false)
      (h : ¬ u.node.HasKnownType) : Offence u u.typeError

/-! ### Types -/

namespace EntryType

theorem ofWord?_eq_some_iff (word : String) (t : EntryType) :
    ofWord? word = some t ↔ word = t.word := by
  constructor
  · intro h
    unfold ofWord? at h
    have hfound := List.find?_some h
    exact (beq_iff_eq.mp hfound).symm
  · rintro rfl
    exact ofWord?_word t

/-- A value is read as a type just if its text is the word of that type. -/
theorem ofValue_eq_ok_iff (v : Value) (t : EntryType) :
    ofValue v = .ok t ↔ v.text? = some t.word := by
  unfold ofValue chooseWord
  cases v.text? with
  | none => simp
  | some word =>
      rw [Option.bind_some, Option.some.injEq, ← ofWord?_eq_some_iff]
      cases ofWord? word <;> simp

theorem exists_ofValue_of_namesType {v : Value} (h : v.NamesType) :
    ∃ t, ofValue v = .ok t := by
  obtain ⟨t, ht⟩ := h
  exact ⟨t, (ofValue_eq_ok_iff v t).mpr ht⟩

theorem ofValue_of_not_namesType {v : Value} (h : ¬ v.NamesType) :
    ofValue v = .error (unknownWord "entry type" v words) := by
  have hnone : v.text?.bind ofWord? = none := by
    rw [Option.bind_eq_none_iff]
    intro word hword
    cases ht : ofWord? word with
    | none => rfl
    | some t =>
        rw [ofWord?_eq_some_iff] at ht
        exact absurd ⟨t, ht ▸ hword⟩ h
  simp [ofValue, chooseWord, hnone]

end EntryType

namespace Declaration

theorem lookup?_of_forall_isWord {word other : String} (hne : other ≠ word) {pairs : Pairs}
    (h : ∀ pair ∈ pairs, pair.1.isWord other = true) : Pairs.lookup? word pairs = none := by
  induction pairs with
  | nil => rfl
  | cons pair rest ih =>
      obtain ⟨k, v⟩ := pair
      have hk : k.text? = some other := beq_iff_eq.mp (h (k, v) List.mem_cons_self)
      have hword : k.isWord word = false := by
        simp [Value.isWord, hk, hne]
      rw [Pairs.lookup?, hword]
      exact ih fun pair hpair => h pair (List.mem_cons_of_mem _ hpair)

theorem not_sets_of_isBare {d : Declaration} (h : d.isBare = true) {word : String}
    (hne : "keys" ≠ word) : d.sets word = false := by
  unfold isBare at h
  rw [Bool.and_eq_true, List.all_eq_true] at h
  have hnone := lookup?_of_forall_isWord hne h.2
  simp [sets, get, Pairs.get, hnone, Value.ofOption, Value.isSet]

theorem exists_entryType_of_known {d : Declaration} (h : d.HasKnownType)
    (defaultType : EntryType) (ancestors : List Declaration) :
    ∃ type, d.entryType defaultType ancestors = .ok type := by
  unfold entryType
  split
  · exact ⟨none, rfl⟩
  · split
    · exact ⟨some defaultType, rfl⟩
    · rename_i hset
      rcases h with h | h
      · simp [sets, h] at hset
      · obtain ⟨t, ht⟩ := EntryType.exists_ofValue_of_namesType h
        exact ⟨some t, by simp [ht]⟩

theorem entryType_of_unknown {u : Visit} (hchildren : u.node.hasChildren = false)
    (h : ¬ u.node.HasKnownType) (defaultType : EntryType) :
    u.node.entryType defaultType u.ancestors = .error (.capture u.typeError) := by
  unfold HasKnownType Value.UnsetOr at h
  rw [not_or, Bool.not_eq_false] at h
  have hset : u.node.sets "type" = true := h.1
  have hbare : u.node.isBare = false := by
    cases hbare : u.node.isBare with
    | false => rfl
    | true => simp [not_sets_of_isBare hbare] at hset
  simp [entryType, hchildren, hbare, hset, EntryType.ofValue_of_not_namesType h.2,
    Visit.typeError]

/-- The type of a declaration does not depend on where it stands. -/
theorem entryType_eq_of_ok {d : Declaration} {defaultType : EntryType}
    {ancestors : List Declaration} {type : Option EntryType}
    (h : d.entryType defaultType ancestors = .ok type) (others : List Declaration) :
    d.entryType defaultType others = .ok type := by
  rw [← h]
  unfold entryType at h ⊢
  split
  · rfl
  · split
    · rfl
    · cases ht : EntryType.ofValue (d.get "type") with
      | ok t => rfl
      | error e => simp_all

/-! ### Templates -/

theorem exists_ofText_of_holdsTexts {v : Value} (h : v.HoldsTexts) :
    ∃ t, Template.ofText v = .ok t := by
  unfold Template.ofText
  cases h with
  | text h =>
      have hitems : v.items? = none := by
        cases v <;> simp_all [Value.isText, Value.text?, Value.items?]
      exact ⟨.literal v, by rw [hitems]⟩
  | texts hitems h =>
      obtain ⟨words, hwords⟩ := Value.exists_texts h
      simp [hitems, Template.joinLines, hwords]

theorem exists_template {d : Declaration} (h : d.HasSoundTexts) :
    ∃ t, d.template = .ok t := by
  unfold template
  split
  · exact ⟨none, rfl⟩
  · rename_i hused
    have hset : d.sets "template" = true := List.find?_some hused
    rcases h.template with htemplate | htemplate
    · simp [sets, htemplate] at hset
    · obtain ⟨t, ht⟩ := exists_ofText_of_holdsTexts htemplate
      exact ⟨some t, by rw [ht]⟩
  · exact ⟨_, rfl⟩
  · exact ⟨_, rfl⟩

end Declaration

namespace Visit

theorem validate_of_entry {defaultType : EntryType} {u : Visit} {e : Entry}
    (h : u.entry defaultType = .ok e) : u.node.validate u.ancestors = .ok () := by
  unfold entry at h
  cases hvalidate : u.node.validate u.ancestors with
  | error f => simp [hvalidate] at h
  | ok _ => rfl

theorem entry_of_hasChildren {u : Visit} (h : u.node.validate u.ancestors = .ok ())
    (hchildren : u.node.hasChildren = true) (defaultType : EntryType) :
    u.entry defaultType =
      .ok (.group (Compile.fullKey u.ancestors u.node) u.node.name) := by
  simp [entry, h, hchildren]

/-- Compiling a declaration by itself decides the demands on it. -/
theorem entry_decides (defaultType : EntryType) (u : Visit) (hnames : u.node.HasTextNames) :
    Decides (u.entry defaultType) u.IsCompilable (Offence u) := by
  have hvalidate := Declaration.validate_decides u hnames
  apply Decides.of_cases
  · rintro ⟨hsound, htype⟩
    obtain ⟨⟨⟩, hok⟩ := hvalidate.ok_iff.mpr hsound
    cases hchildren : u.node.hasChildren with
    | true => exact ⟨_, entry_of_hasChildren hok hchildren defaultType⟩
    | false =>
        obtain ⟨type, hentryType⟩ := Declaration.exists_entryType_of_known
          (htype hchildren) defaultType u.ancestors
        obtain ⟨t, ht⟩ := Declaration.exists_template (hsound.leaf hchildren)
        simp [entry, hok, hchildren, Declaration.leaf, hentryType, ht]
  · intro e he
    cases he with
    | violation h =>
        have herror := (hvalidate.error_iff _).mpr ⟨e, rfl, h⟩
        simp [entry, herror]
    | type hsound hchildren h =>
        obtain ⟨⟨⟩, hok⟩ := hvalidate.ok_iff.mpr hsound
        simp [entry, hok, hchildren, Declaration.leaf,
          Declaration.entryType_of_unknown hchildren h]
  · rcases hvalidate.met_or_fault with hsound | ⟨e, he⟩
    · by_cases htype : u.node.hasChildren = false → u.node.HasKnownType
      · exact .inl ⟨hsound, htype⟩
      · rw [Classical.not_imp] at htype
        exact .inr ⟨_, .type hsound htype.1 htype.2⟩
    · exact .inr ⟨e, .violation he⟩

end Visit

end CaptureForest
