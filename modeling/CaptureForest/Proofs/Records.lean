import CaptureForest.Proofs.CompileOrder
import CaptureForest.Proofs.Layout

/-!
# What a record tells

A record keeps no place for a field that a leaf lacks.  Between the type and the
attributes stand the target and the template, each if there is one, and nothing
marks which is which.  Leaves with the same record therefore agree in all that is
rendered, unless a target stands in one record for something else in the other: for
a template, or together with the template behind it for an attribute and its value.

Records are compared by any equality of values that is exact on texts.
-/

namespace CaptureForest

variable {R : Value → Value → Prop}

namespace Value

def IsExactOnTexts (R : Value → Value → Prop) : Prop :=
  ∀ s t : String, R (.str s) (.str t) ↔ s = t

theorem same_isExactOnTexts : IsExactOnTexts fun a b => a.same b = true := by
  intro s t
  simp [same, scalarSame, number?, text?]

theorem sameItems_iff (xs ys : List Value) :
    sameItems xs ys = true ↔ List.Forall₂ (fun a b => a.same b = true) xs ys := by
  induction xs generalizing ys with
  | nil => cases ys <;> simp [sameItems]
  | cons x rest ih =>
      cases ys with
      | nil => simp [sameItems]
      | cons y others => simp [sameItems, ih]

end Value

/-! ### Pairs one after another -/

namespace Pairs

def Alike (R : Value → Value → Prop) : Pairs → Pairs → Prop :=
  List.Forall₂ fun p q => R p.1 q.1 ∧ R p.2 q.2

theorem spread_cons (p : Value × Value) (rest : Pairs) :
    spread (p :: rest) = p.1 :: p.2 :: spread rest := rfl

theorem length_spread (pairs : Pairs) : pairs.spread.length = 2 * pairs.length := by
  induction pairs with
  | nil => rfl
  | cons p rest ih =>
      rw [spread_cons, List.length_cons, List.length_cons, List.length_cons, ih]
      omega

theorem spread_related_iff (ps qs : Pairs) :
    List.Forall₂ R ps.spread qs.spread ↔ ps.Alike R qs := by
  unfold Alike
  induction ps generalizing qs with
  | nil => cases qs <;> simp [spread]
  | cons p rest ih =>
      cases qs with
      | nil => simp [spread]
      | cons q others => simp [spread_cons, ih, and_assoc]

end Pairs

/-! ### The parts of a record -/

namespace Leaf

def typeWord (l : Leaf) : Option Value := l.type.map fun t => .str t.word

def targetRecord (l : Leaf) : Option Value := l.target.map Target.record

def templateRecord (l : Leaf) : Option Value := l.template.map Template.record

/-- The attributes that a record shows with their values. -/
def shown (l : Leaf) : Pairs := l.options ++ l.passthrough

/-- What has no type has nothing else to show. -/
def IsBareIfUntyped (l : Leaf) : Prop :=
  l.type = none → l.target = none ∧ l.template = none ∧ l.shown = []

/-- The two leaves have a target and a template or lack them alike, and the same
is rendered for both. -/
structure Agrees (R : Value → Value → Prop) (l m : Leaf) : Prop where
  target : Option.Rel R l.targetRecord m.targetRecord
  template : Option.Rel R l.templateRecord m.templateRecord
  shown : l.shown.Alike R m.shown

/-- The target of the first leaf is rendered like something else of the second,
which has no target: like its template where the first has none, or else with the
template behind it like its first attribute. -/
inductive PassesFor (R : Value → Value → Prop) (l m : Leaf) : Prop
  | template {target template : Value}
      (htarget : l.targetRecord = some target) (hlacks : l.templateRecord = none)
      (hlacks' : m.targetRecord = none) (htemplate : m.templateRecord = some template)
      (halike : R target template) (hshown : l.shown.Alike R m.shown)
  | pair {target template word value : Value} {rest : Pairs}
      (htarget : l.targetRecord = some target) (htemplate : l.templateRecord = some template)
      (hlacks : m.targetRecord = none) (hlacks' : m.templateRecord = none)
      (hfirst : m.shown = (word, value) :: rest)
      (halike : R target word ∧ R template value) (hshown : l.shown.Alike R rest)

/-- The fields and the attributes of a leaf, as a record shows them. -/
def body (l : Leaf) : List Value :=
  l.targetRecord.toList ++ (l.templateRecord.toList ++ l.shown.spread)

theorem record_eq (l : Leaf) :
    l.record = .str l.key :: l.name :: (l.typeWord.toList ++ l.body) := by
  simp [record, middle, typeWord, body, targetRecord, templateRecord, shown, Pairs.spread]

theorem length_body (l : Leaf) :
    l.body.length =
      l.targetRecord.toList.length + l.templateRecord.toList.length + 2 * l.shown.length := by
  rw [body, List.length_append, List.length_append, Pairs.length_spread, Nat.add_assoc]

/-! ### Records side by side -/

theorem option_related {o o' : Option Value} {xs ys : List Value}
    (h : List.Forall₂ R (o.toList ++ xs) (o'.toList ++ ys)) (hsome : o.isSome = o'.isSome) :
    Option.Rel R o o' ∧ List.Forall₂ R xs ys := by
  cases o with
  | none =>
      cases o' with
      | none => exact ⟨.none, h⟩
      | some y => cases hsome
  | some x =>
      cases o' with
      | none => cases hsome
      | some y =>
          obtain ⟨hxy, hrest⟩ := List.forall₂_cons.mp h
          exact ⟨.some hxy, hrest⟩

variable {l m : Leaf}

theorem agrees_of_body (h : List.Forall₂ R l.body m.body)
    (htarget : l.targetRecord.isSome = m.targetRecord.isSome) : l.Agrees R m := by
  have hlength := h.length_eq
  rw [length_body, length_body] at hlength
  obtain ⟨htargets, hrest⟩ := option_related h htarget
  -- the attributes make an even number of places, so the templates are there alike
  have htemplate : l.templateRecord.isSome = m.templateRecord.isSome := by
    simp only [Option.length_toList, htarget] at hlength
    cases hl : l.templateRecord.isSome <;> cases hm : m.templateRecord.isSome <;>
      simp [hl, hm] at hlength ⊢ <;> omega
  obtain ⟨htemplates, hshown⟩ := option_related hrest htemplate
  exact ⟨htargets, htemplates, (Pairs.spread_related_iff _ _).mp hshown⟩

theorem passesFor_of_body (h : List.Forall₂ R l.body m.body) {target : Value}
    (hl : l.targetRecord = some target) (hm : m.targetRecord = none) : l.PassesFor R m := by
  have hlength := h.length_eq
  rw [length_body, length_body, hl, hm] at hlength
  unfold body at h
  rw [hl, hm] at h
  cases hlt : l.templateRecord with
  | none =>
      cases hmt : m.templateRecord with
      | none =>
          simp [hlt, hmt] at hlength
          omega
      | some template =>
          rw [hlt, hmt] at h
          obtain ⟨halike, hshown⟩ := List.forall₂_cons.mp h
          exact .template hl hlt hm hmt halike ((Pairs.spread_related_iff _ _).mp hshown)
  | some template =>
      cases hmt : m.templateRecord with
      | some _ =>
          simp [hlt, hmt] at hlength
          omega
      | none =>
          cases hfirst : m.shown with
          | nil =>
              simp [hlt, hmt, hfirst] at hlength
          | cons p rest =>
              rw [hlt, hmt, hfirst] at h
              obtain ⟨hword, hvalue, hshown⟩ :
                  R target p.1 ∧ R template p.2 ∧ List.Forall₂ R l.shown.spread (Pairs.spread rest) := by
                simpa [Pairs.spread_cons] using h
              exact .pair hl hlt hm hmt hfirst ⟨hword, hvalue⟩
                ((Pairs.spread_related_iff _ _).mp hshown)

theorem Agrees.body (h : l.Agrees R m) : List.Forall₂ R l.body m.body := by
  have hshown := (Pairs.spread_related_iff _ _).mpr h.shown
  have hoption : ∀ {o o' : Option Value}, Option.Rel R o o' →
      List.Forall₂ R o.toList o'.toList := by
    intro o o' ho
    cases ho with
    | some hxy => exact .cons hxy .nil
    | none => exact .nil
  exact List.rel_append (hoption h.target) (List.rel_append (hoption h.template) hshown)

theorem PassesFor.body (h : l.PassesFor R m) : List.Forall₂ R l.body m.body := by
  unfold Leaf.body
  cases h with
  | template htarget hlacks hlacks' htemplate halike hshown =>
      rw [htarget, hlacks, hlacks', htemplate]
      exact .cons halike ((Pairs.spread_related_iff _ _).mpr hshown)
  | pair htarget htemplate hlacks hlacks' hfirst halike hshown =>
      rw [htarget, htemplate, hlacks, hlacks', hfirst]
      exact .cons halike.1 (.cons halike.2 ((Pairs.spread_related_iff _ _).mpr hshown))

theorem body_related_iff :
    List.Forall₂ R l.body m.body ↔
      l.Agrees R m ∨ l.PassesFor R m ∨ m.PassesFor (flip R) l := by
  constructor
  · intro h
    cases hl : l.targetRecord with
    | none =>
        cases hm : m.targetRecord with
        | none => exact .inl (agrees_of_body h (by rw [hl, hm]))
        | some target =>
            have hflip : List.Forall₂ (flip R) m.body l.body := List.Forall₂.flip h
            exact .inr (.inr (passesFor_of_body hflip hm hl))
    | some target =>
        cases hm : m.targetRecord with
        | none => exact .inr (.inl (passesFor_of_body h hl hm))
        | some _ => exact .inl (agrees_of_body h (by rw [hl, hm]; rfl))
  · rintro (h | h | h)
    · exact h.body
    · exact h.body
    · exact List.Forall₂.flip h.body

theorem isSome_targetRecord (l : Leaf) : l.targetRecord.isSome = l.target.isSome :=
  Option.isSome_map

theorem isSome_templateRecord (l : Leaf) : l.templateRecord.isSome = l.template.isSome :=
  Option.isSome_map

/-- Where a target passes for something else, the templates differ as well. -/
theorem PassesFor.differs (h : l.PassesFor R m) :
    l.target.isSome ≠ m.target.isSome ∧ l.template.isSome ≠ m.template.isSome := by
  rw [← isSome_targetRecord, ← isSome_targetRecord, ← isSome_templateRecord,
    ← isSome_templateRecord]
  cases h with
  | template htarget hlacks hlacks' htemplate => simp [htarget, hlacks, hlacks', htemplate]
  | pair htarget htemplate hlacks hlacks' => simp [htarget, htemplate, hlacks, hlacks']

theorem append_body_eq_nil_iff (h : l.IsBareIfUntyped) :
    l.typeWord.toList ++ l.body = [] ↔ l.type = none := by
  constructor
  · intro hnil
    have hword := (List.append_eq_nil_iff.mp hnil).1
    rw [Option.toList_eq_nil_iff] at hword
    exact Option.map_eq_none_iff.mp hword
  · intro htype
    obtain ⟨htarget, htemplate, hshown⟩ := h htype
    simp [typeWord, body, targetRecord, templateRecord, htype, htarget, htemplate, hshown,
      Pairs.spread]

theorem type_eq_of_typeWord (hR : Value.IsExactOnTexts R)
    (h : Option.Rel R l.typeWord m.typeWord) : l.type = m.type := by
  unfold typeWord at h
  cases hl : l.type with
  | none =>
      cases hm : m.type with
      | none => rfl
      | some t =>
          rw [hl, hm] at h
          cases h
  | some s =>
      cases hm : m.type with
      | none =>
          rw [hl, hm] at h
          cases h
      | some t =>
          rw [hl, hm] at h
          cases h with
          | some hword =>
              have hst := (hR s.word t.word).mp hword
              have hknown := EntryType.ofWord?_word s
              rw [hst, EntryType.ofWord?_word t] at hknown
              exact hknown.symm

/-- What stands in front of the fields of two leaves is the same. -/
structure SameHead (R : Value → Value → Prop) (l m : Leaf) : Prop where
  key : l.key = m.key
  name : R l.name m.name
  type : l.type = m.type

theorem record_related_iff (hR : Value.IsExactOnTexts R) (hl : l.IsBareIfUntyped)
    (hm : m.IsBareIfUntyped) :
    List.Forall₂ R l.record m.record ↔
      l.SameHead R m ∧ (l.Agrees R m ∨ l.PassesFor R m ∨ m.PassesFor (flip R) l) := by
  rw [← body_related_iff, record_eq, record_eq, List.forall₂_cons, List.forall₂_cons, hR]
  constructor
  · rintro ⟨hkey, hname, hrest⟩
    have hnil : l.type = none ↔ m.type = none := by
      rw [← append_body_eq_nil_iff hl, ← append_body_eq_nil_iff hm,
        ← List.length_eq_zero_iff, ← List.length_eq_zero_iff, hrest.length_eq]
    have htyped : l.typeWord.isSome = m.typeWord.isSome := by
      unfold typeWord
      rw [Option.isSome_map, Option.isSome_map]
      cases hlt : l.type <;> cases hmt : m.type <;> simp_all
    obtain ⟨hword, hbody⟩ := option_related hrest htyped
    exact ⟨⟨hkey, hname, type_eq_of_typeWord hR hword⟩, hbody⟩
  · rintro ⟨⟨hkey, hname, htype⟩, hbody⟩
    refine ⟨hkey, hname, List.rel_append ?_ hbody⟩
    unfold typeWord
    rw [htype]
    cases m.type with
    | none => exact .nil
    | some t => exact .cons ((hR _ _).mpr rfl) .nil

end Leaf

/-! ### Bare declarations -/

namespace Declaration

variable {d : Declaration}

theorem not_sets_of_isBare_of_mem (h : d.isBare = true) {words : List String}
    (hwords : "keys" ∉ words) {word : String} (hword : word ∈ words) : d.sets word = false := by
  apply not_sets_of_isBare h
  rintro rfl
  exact hwords hword

theorem target_of_isBare (h : d.isBare = true) : d.target = none := by
  have hunused : d.usedLocation? = none := by
    unfold usedLocation?
    rw [List.find?_eq_none]
    intro word hword
    simp [not_sets_of_isBare_of_mem h (by decide : "keys" ∉ Keyword.locations) hword]
  rw [target, hunused, Option.map_none]

theorem template_of_isBare (h : d.isBare = true) : d.template = .ok none := by
  have hunused : d.usedTemplate? = none := by
    unfold usedTemplate?
    rw [List.find?_eq_none]
    intro word hword
    simp [not_sets_of_isBare_of_mem h (by decide : "keys" ∉ Keyword.templates) hword]
  rw [template, hunused]

theorem options_append_passthrough_of_isBare (h : d.isBare = true) :
    d.options ++ d.passthrough = [] := by
  unfold isBare at h
  rw [Bool.and_eq_true, List.all_eq_true] at h
  have hkeys : ∀ pair ∈ d.setAttributes, pair.1.text? = some "keys" := by
    intro pair hpair
    exact beq_iff_eq.mp (h.2 pair (List.mem_filter.mp hpair).1)
  rw [List.append_eq_nil_iff, options, passthrough, List.filter_eq_nil_iff,
    List.filter_eq_nil_iff]
  constructor
  · intro pair hpair
    rw [Value.isAmong, hkeys pair hpair]
    decide
  · intro pair hpair
    rw [Value.isAmong, hkeys pair hpair]
    decide

theorem isBare_of_untyped {defaultType : EntryType} {ancestors : List Declaration}
    (hchildren : d.hasChildren = false) (h : d.entryType defaultType ancestors = .ok none) :
    d.isBare = true := by
  unfold entryType at h
  cases hbare : d.isBare with
  | true => rfl
  | false =>
      cases hset : d.sets "type" with
      | false => simp [hchildren, hbare, hset] at h
      | true =>
          cases htype : EntryType.ofValue (d.get "type") with
          | ok t => simp [hchildren, hbare, hset, htype] at h
          | error e => simp [hchildren, hbare, hset, htype] at h

end Declaration

namespace Visit

theorem isBareIfUntyped_of_entry {defaultType : EntryType} {u : Visit} {l : Leaf}
    (h : u.entry defaultType = .ok (.leaf l)) : l.IsBareIfUntyped := by
  rcases entry_cases h with ⟨-, hgroup⟩ | ⟨hchildren, type, template, htype, htemplate, hleaf⟩
  · cases hgroup
  · intro huntyped
    obtain rfl := Entry.leaf.inj hleaf
    obtain rfl : type = none := huntyped
    have hbare := Declaration.isBare_of_untyped hchildren htype
    have hnone : template = none := by
      rw [Declaration.template_of_isBare hbare] at htemplate
      exact (Except.ok.inj htemplate).symm
    exact ⟨Declaration.target_of_isBare hbare, hnone,
      Declaration.options_append_passthrough_of_isBare hbare⟩

end Visit

namespace Compile

variable {plan : Plan}

theorem isBareIfUntyped_of_forest {v : Value} {c : Compilation} (h : forest plan v = .ok c)
    {l : Leaf} (hl : .leaf l ∈ c.entries) : l.IsBareIfUntyped := by
  obtain ⟨u, -, hu⟩ := exists_visit_of_mem_entries h hl
  exact Visit.isBareIfUntyped_of_entry hu

/-- Leaves that are compiled alike have the same record just if they agree in all
that is rendered or the target of one passes for something else of the other.  If
they have a target or lack it alike, or a template, then equal records mean that
they agree. -/
theorem record_tells_fields (hR : Value.IsExactOnTexts R) {v w : Value} {c d : Compilation}
    (hc : forest plan v = .ok c) (hd : forest plan w = .ok d) {l m : Leaf}
    (hl : .leaf l ∈ c.entries) (hm : .leaf m ∈ d.entries) :
    (List.Forall₂ R l.record m.record ↔
      l.SameHead R m ∧ (l.Agrees R m ∨ l.PassesFor R m ∨ m.PassesFor (flip R) l)) ∧
    (List.Forall₂ R l.record m.record →
      l.target.isSome = m.target.isSome ∨ l.template.isSome = m.template.isSome →
        l.Agrees R m) := by
  have hiff := Leaf.record_related_iff hR (isBareIfUntyped_of_forest hc hl)
    (isBareIfUntyped_of_forest hd hm)
  refine ⟨hiff, ?_⟩
  intro hrecord halike
  rcases (hiff.mp hrecord).2 with h | h | h
  · exact h
  · have hdiffers := h.differs
    exact absurd halike (not_or.mpr hdiffers)
  · have hdiffers := h.differs
    exact absurd halike (not_or.mpr ⟨hdiffers.1.symm, hdiffers.2.symm⟩)

/-- A file and a raw descriptor of it, a template in lines, and an option that is
spelled and written in another way. -/
theorem record_tells_fields_of_descriptor :
    let v : Value := .list [.node (.str "Note") [(.str "keys", .str "n"),
      (.str "file", .str "n.org"), (.str "template", .str "* %?\n%i"), (.str "prepend", .bool true)]]
    let w : Value := .list [.map [(.str "name", .str "Note"), (.str ":prepend", .int 1),
      (.str "target", .tuple [.str "file", .str "n.org"]), (.str "keys", .str "n"),
      (.str "template", .list [.str "* %?", .str "%i"])]]
    ∃ c d l m, forest {} v = .ok c ∧ forest {} w = .ok d ∧
      .leaf l ∈ c.entries ∧ .leaf m ∈ d.entries ∧ Value.sameItems l.record m.record = true ∧
      l.target ≠ m.target ∧ l.Agrees (fun a b => a.same b = true) m := by
  intro v w
  refine ⟨_, _, _, _, rfl, rfl, List.mem_cons_self, List.mem_cons_self, rfl, nofun, ?_⟩
  have hdescribed := @record_tells_fields _ {} Value.same_isExactOnTexts v w _ _ rfl rfl _ _
    List.mem_cons_self List.mem_cons_self
  exact hdescribed.2 ((Value.sameItems_iff _ _).mp rfl) (.inl rfl)

/-- A template file alone has the record of a file alone. -/
theorem record_hides_target :
    let v : Value := .list [.node (.str "Note") [(.str "keys", .str "n"),
      (.str "file", .str "n.org")]]
    let w : Value := .list [.node (.str "Note") [(.str "keys", .str "n"),
      (.str "template-file", .str "n.org")]]
    ∃ c d l m, forest {} v = .ok c ∧ forest {} w = .ok d ∧
      .leaf l ∈ c.entries ∧ .leaf m ∈ d.entries ∧ l.record = m.record ∧
      l.target.isSome = true ∧ m.target = none ∧ l.template = none ∧ m.template.isSome = true := by
  intro v w
  exact ⟨_, _, _, _, rfl, rfl, List.mem_cons_self, List.mem_cons_self, rfl, rfl, rfl, rfl, rfl⟩

end Compile

end CaptureForest
