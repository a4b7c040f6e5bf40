import CaptureForest.Proofs.Unreportable

/-!
# Competing keywords

Of several keywords for a location only one is used, and likewise of several for a
template.  The check of a forest lists what competes and names the first of the
list; the resolution of a leaf looks for the first that counts, and builds a target
or a template from it.  The two agree on every leaf: a warning names the keyword
from which the leaf is built, and where no warning is given there is nothing to
choose.
-/

namespace CaptureForest

/-- Keywords of which at most one is used, in order of priority; what is resolved
from them, and how the check calls them. -/
structure Contest (α : Type) where
  words : List String
  competes : String → Bool
  outcome : Except Fault (Option α)
  builtFrom : String → α → Prop
  code : String
  what : String

namespace Contest

variable {α : Type}

/-- The keywords that compete, in order of priority. -/
def listed (c : Contest α) : List String := c.words.filter c.competes

/-- The warning that lists several keywords and says which of them is used. -/
def warning (c : Contest α) (path used : String) (words : List String) : Warning where
  path := .str path
  code := .str c.code
  message := .str ("Several " ++ c.what ++ " declared (" ++ String.intercalate ", " words ++
    "); only '" ++ used ++ "' is used")

/-- What is resolved comes from the first keyword that competes. -/
structure IsDecided (c : Contest α) : Prop where
  nodup : c.words.Nodup
  unused : c.words.find? c.competes = none → c.outcome = .ok none
  used : ∀ word, c.words.find? c.competes = some word →
    ∃ t, c.outcome = .ok (some t) ∧ c.builtFrom word t

/-- A warning is given if two keywords compete.  It lists all that compete, and what
is resolved is built from the one that it calls used.  Without a warning nothing is
resolved, or it is built from the only keyword that competes. -/
structure IsSettled (c : Contest α) (path : String) (given : Option Warning) : Prop where
  warned : given.isSome = true ↔
    ∃ a ∈ c.words, ∃ b ∈ c.words, a ≠ b ∧ c.competes a = true ∧ c.competes b = true
  names : ∀ w, given = some w → ∃ used others t,
    (used :: others).Sublist c.words ∧
    (∀ a, a ∈ used :: others ↔ a ∈ c.words ∧ c.competes a = true) ∧
    w = c.warning path used (used :: others) ∧
    c.outcome = .ok (some t) ∧ c.builtFrom used t
  alone : given = none → c.outcome = .ok none ∨ ∃ word t,
    (∀ a, a = word ↔ a ∈ c.words ∧ c.competes a = true) ∧
    c.outcome = .ok (some t) ∧ c.builtFrom word t

theorem mem_listed_iff (c : Contest α) (word : String) :
    word ∈ c.listed ↔ word ∈ c.words ∧ c.competes word = true := List.mem_filter

theorem head?_listed (c : Contest α) : c.listed.head? = c.words.find? c.competes :=
  List.head?_filter

variable {c : Contest α}

theorem exists_of_listed {used : String} {others : List String} (h : c.IsDecided)
    (hlisted : c.listed = used :: others) : ∃ t, c.outcome = .ok (some t) ∧ c.builtFrom used t := by
  have hhead := c.head?_listed
  rw [hlisted, List.head?_cons] at hhead
  exact h.used used hhead.symm

theorem isSettled_of_nil (h : c.IsDecided) (hlisted : c.listed = []) (path : String) :
    c.IsSettled path none where
  warned := by
    simp only [Option.isSome_none, Bool.false_eq_true, false_iff]
    rintro ⟨a, ha, -, -, -, hcompetes, -⟩
    have hmem := (c.mem_listed_iff a).mpr ⟨ha, hcompetes⟩
    rw [hlisted] at hmem
    cases hmem
  names := fun w hw => by cases hw
  alone := by
    have hhead := c.head?_listed
    rw [hlisted, List.head?_nil] at hhead
    exact fun _ => .inl (h.unused hhead.symm)

theorem isSettled_of_singleton (h : c.IsDecided) {word : String} (hlisted : c.listed = [word])
    (path : String) : c.IsSettled path none where
  warned := by
    simp only [Option.isSome_none, Bool.false_eq_true, false_iff]
    rintro ⟨a, ha, b, hb, hne, hacompetes, hbcompetes⟩
    have ha := (c.mem_listed_iff a).mpr ⟨ha, hacompetes⟩
    have hb := (c.mem_listed_iff b).mpr ⟨hb, hbcompetes⟩
    rw [hlisted, List.mem_singleton] at ha hb
    exact hne (ha.trans hb.symm)
  names := fun w hw => by cases hw
  alone := by
    obtain ⟨t, houtcome, hbuilt⟩ := exists_of_listed h hlisted
    refine fun _ => .inr ⟨word, t, fun a => ?_, houtcome, hbuilt⟩
    rw [← c.mem_listed_iff, hlisted, List.mem_singleton]

theorem isSettled_of_cons_cons (h : c.IsDecided) {used other : String} {rest : List String}
    (hlisted : c.listed = used :: other :: rest) (path : String) :
    c.IsSettled path (some (c.warning path used (used :: other :: rest))) where
  warned := by
    have hnodup : c.listed.Nodup := h.nodup.filter _
    have hused := (c.mem_listed_iff used).mp (by simp [hlisted])
    have hother := (c.mem_listed_iff other).mp (by simp [hlisted])
    have hne : used ≠ other := by
      rintro rfl
      simp [hlisted] at hnodup
    exact iff_of_true rfl ⟨used, hused.1, other, hother.1, hne, hused.2, hother.2⟩
  names := by
    rintro w ⟨⟩
    obtain ⟨t, houtcome, hbuilt⟩ := exists_of_listed h hlisted
    refine ⟨used, other :: rest, t, ?_, ?_, rfl, houtcome, hbuilt⟩
    · rw [← hlisted]
      exact List.filter_sublist
    · intro a
      rw [← hlisted, c.mem_listed_iff]
  alone := fun hnone => by cases hnone

/-- The check warns of a contest as it is decided. -/
theorem exists_isSettled (h : c.IsDecided) (path : String) :
    ∃ given : Option Warning,
      Declaration.conflict path c.code c.what c.listed = given.toList ∧ c.IsSettled path given := by
  match hlisted : c.listed with
  | [] => exact ⟨none, rfl, isSettled_of_nil h hlisted path⟩
  | [word] => exact ⟨none, rfl, isSettled_of_singleton h hlisted path⟩
  | used :: other :: rest => exact ⟨some _, rfl, isSettled_of_cons_cons h hlisted path⟩

end Contest

/-! ### Locations and templates -/

/-- A target that is built from the value of a location keyword. -/
inductive Target.BuiltFrom (d : Declaration) : String → Target → Prop where
  | clock : BuiltFrom d "clock" .clock
  | id : BuiltFrom d "id" (.id (d.get "id"))
  | function : BuiltFrom d "function" (.function (d.get "function"))
  | target : BuiltFrom d "target" (.raw (d.get "target"))
  | file (refinement : Option String) (argument datetree : Value) :
      BuiltFrom d "file" (.file (d.get "file") refinement argument datetree)

/-- A template that is built from the value of a template keyword. -/
inductive Template.BuiltFrom (d : Declaration) : String → Template → Prop where
  | text {t : Template} (h : Template.ofText (d.get "template") = .ok t) : BuiltFrom d "template" t
  | file : BuiltFrom d "template-file" (.file (d.get "template-file"))
  | function : BuiltFrom d "template-function" (.function (d.get "template-function"))

namespace Declaration

variable {d : Declaration}

/-- A location keyword competes if it is set; a function refines a file that is set. -/
def locationContest (d : Declaration) : Contest Target where
  words := Keyword.locations
  competes := fun word => d.sets word && !(word == "function" && d.sets "file")
  outcome := .ok d.target
  builtFrom := Target.BuiltFrom d
  code := "MULTIPLE_LOCATIONS"
  what := "locations"

def templateContest (d : Declaration) : Contest Template where
  words := Keyword.templates
  competes := d.sets
  outcome := d.template
  builtFrom := Template.BuiltFrom d
  code := "MULTIPLE_TEMPLATES"
  what := "template sources"

theorem competesForLocation_iff (d : Declaration) (word : String) :
    d.locationContest.competes word = true ↔
      d.sets word = true ∧ (word = "function" → d.sets "file" = false) := by
  simp [locationContest, imp_iff_not_or]

theorem competingLocations_eq (d : Declaration) :
    d.competingLocations = d.locationContest.listed := by
  have hfile : (Keyword.locations.filter d.sets).contains "file" = d.sets "file" := by
    rw [Bool.eq_iff_iff, List.contains_iff_mem, List.mem_filter]
    exact and_iff_right (by decide)
  simp only [competingLocations, hfile, Contest.listed, locationContest]
  cases d.sets "file" with
  | true =>
      rw [if_pos rfl, List.filter_filter]
      refine List.filter_congr fun word _ => ?_
      rw [Bool.and_true, Bool.and_comm, decide_not, beq_eq_decide]
  | false => simp

theorem usedLocation?_eq_find? (d : Declaration) :
    d.usedLocation? = d.locationContest.words.find? d.locationContest.competes := rfl

theorem usedTemplate?_eq_find? (d : Declaration) :
    d.usedTemplate? = d.templateContest.words.find? d.templateContest.competes := rfl

theorem exists_fileTarget (d : Declaration) :
    ∃ refinement argument datetree,
      d.fileTarget (d.get "file") = .file (d.get "file") refinement argument datetree := by
  unfold fileTarget
  split
  · exact ⟨_, _, _, rfl⟩
  · exact ⟨_, _, _, rfl⟩

theorem exists_target {word : String} (h : d.usedLocation? = some word) :
    ∃ t, d.target = some t ∧ Target.BuiltFrom d word t := by
  have hword : word ∈ Keyword.locations := List.mem_of_find?_eq_some h
  unfold target
  rw [h, Option.map_some]
  simp only [Keyword.locations, List.mem_cons, List.not_mem_nil, or_false] at hword
  rcases hword with rfl | rfl | rfl | rfl | rfl
  · exact ⟨_, rfl, .clock⟩
  · exact ⟨_, rfl, .id⟩
  · exact ⟨_, rfl, .function⟩
  · exact ⟨_, rfl, .target⟩
  · obtain ⟨refinement, argument, datetree, hfile⟩ := d.exists_fileTarget
    exact ⟨_, congrArg some hfile, .file refinement argument datetree⟩

theorem isDecided_locationContest (d : Declaration) : d.locationContest.IsDecided where
  nodup := (by decide : Keyword.locations.Nodup)
  unused := by
    intro h
    rw [← usedLocation?_eq_find?] at h
    simp [locationContest, target, h]
  used := by
    intro word h
    obtain ⟨t, ht, hbuilt⟩ := exists_target h
    exact ⟨t, congrArg Except.ok ht, hbuilt⟩

theorem exists_usedTemplate {word : String} (htexts : d.HasSoundTexts)
    (h : d.usedTemplate? = some word) :
    ∃ t, d.template = .ok (some t) ∧ Template.BuiltFrom d word t := by
  have hword : word ∈ Keyword.templates := List.mem_of_find?_eq_some h
  obtain ⟨t, ht⟩ := exists_template htexts
  unfold template at ht ⊢
  rw [h] at ht ⊢
  simp only [Keyword.templates, List.mem_cons, List.not_mem_nil, or_false] at hword
  rcases hword with rfl | rfl | rfl
  · cases htext : Template.ofText (d.get "template") with
    | error e => simp [htext] at ht
    | ok t => exact ⟨t, rfl, .text htext⟩
  · exact ⟨_, rfl, .file⟩
  · exact ⟨_, rfl, .function⟩

theorem isDecided_templateContest (htexts : d.HasSoundTexts) : d.templateContest.IsDecided where
  nodup := (by decide : Keyword.templates.Nodup)
  unused := by
    intro h
    rw [← usedTemplate?_eq_find?] at h
    simp [templateContest, template, h]
  used := fun word h => exists_usedTemplate htexts h

end Declaration

/-! ### Whole forests -/

namespace Visit

/-- The visit is one of a leaf, and it and its ancestors pass. -/
def isValidLeaf (u : Visit) : Bool := u.lineage.all Declaration.passes && !u.node.hasChildren

/-- The warnings about a leaf: at most one about its locations, and then at most one
about its templates. -/
def IsWarnedBy (u : Visit) (given : List Warning) : Prop :=
  ∃ location template : Option Warning, given = location.toList ++ template.toList ∧
    u.node.locationContest.IsSettled (u.node.path u.ancestors) location ∧
    u.node.templateContest.IsSettled (u.node.path u.ancestors) template

theorem isValidLeaf_iff (u : Visit) :
    u.isValidLeaf = true ↔
      u.isReached = true ∧ (u.node.passes && !u.node.hasChildren) = true := by
  simp [isValidLeaf, isReached, lineage, and_assoc]

theorem isWarnedBy_of_isValidLeaf {u : Visit} (h : u.isValidLeaf = true) :
    u.IsWarnedBy u.warnings := by
  obtain ⟨-, hleaf⟩ := u.isValidLeaf_iff.mp h
  have hwarnings : u.warnings = u.node.conflicts (u.node.path u.ancestors) := if_pos hleaf
  rw [Bool.and_eq_true, Bool.not_eq_true'] at hleaf
  have hvalid := (u.node.passes_iff u.ancestors).mp hleaf.1
  have htexts := Declaration.hasSoundTexts_of_validate hvalid hleaf.2
  obtain ⟨location, hlocation, hlocations⟩ :=
    Contest.exists_isSettled u.node.isDecided_locationContest (u.node.path u.ancestors)
  obtain ⟨template, htemplate, htemplates⟩ :=
    Contest.exists_isSettled (Declaration.isDecided_templateContest htexts)
      (u.node.path u.ancestors)
  refine ⟨location, template, ?_, hlocations, htemplates⟩
  rw [hwarnings, ← hlocation, ← htemplate, ← Declaration.competingLocations_eq]
  rfl

theorem warnings_eq_nil {u : Visit} (h : u.isReached = true) (hleaf : u.isValidLeaf = false) :
    u.warnings = [] := by
  refine if_neg fun hvalid => ?_
  rw [u.isValidLeaf_iff.mpr ⟨h, hvalid⟩] at hleaf
  cases hleaf

theorem flatMap_warnings (walk : List Visit) :
    (walk.filter isReached).flatMap warnings = (walk.filter isValidLeaf).flatMap warnings := by
  induction walk with
  | nil => rfl
  | cons u rest ih =>
      cases hleaf : u.isValidLeaf with
      | true =>
          have hreached := (u.isValidLeaf_iff.mp hleaf).1
          rw [List.filter_cons_of_pos hreached, List.filter_cons_of_pos hleaf,
            List.flatMap_cons, List.flatMap_cons, ih]
      | false =>
          rw [List.filter_cons_of_neg (by simp [hleaf] : ¬ u.isValidLeaf = true), ← ih]
          cases hreached : u.isReached with
          | true => rw [List.filter_cons_of_pos hreached, List.flatMap_cons,
              warnings_eq_nil hreached hleaf, List.nil_append]
          | false => rw [List.filter_cons_of_neg (by simp [hreached])]

end Visit

namespace Report

@[simp] theorem warnings_conclude (r : Report) : r.conclude.warnings = r.warnings := by
  unfold conclude
  split <;> rfl

/-- The warnings of a report are those about the visits that the check reaches. -/
theorem warnings_of_ofForest {v : Value} {r : Report} (h : ofForest v = .ok r) :
    r.warnings = (Forest.reached v).flatMap Visit.warnings := by
  cases hroots : Declaration.ofForest v with
  | error e =>
      rw [ofForest_of_error hroots] at h
      obtain rfl := Except.ok.inj h
      simp [Forest.reached, Forest.visits, hroots, addError]
  | ok roots =>
      rw [eq_tally_of_ofForest hroots h, warnings_conclude, tally]

/-- The warnings about a forest come leaf by leaf, in the order of the walk, about the
leaves that pass and whose ancestors pass, and they agree with what these leaves
resolve to. -/
theorem warnings_settle_contests {v : Value} {r : Report} (h : ofForest v = .ok r) :
    ∃ blocks, List.Forall₂ Visit.IsWarnedBy ((Forest.visits v).filter Visit.isValidLeaf) blocks ∧
      r.warnings = blocks.flatten := by
  refine ⟨((Forest.visits v).filter Visit.isValidLeaf).map Visit.warnings, ?_, ?_⟩
  · rw [List.forall₂_map_right_iff, List.forall₂_same]
    intro u hu
    exact Visit.isWarnedBy_of_isValidLeaf (List.mem_filter.mp hu).2
  · rw [warnings_of_ofForest h, Forest.reached, Visit.flatMap_warnings, List.flatMap_def]

/-- A leaf with two locations and two templates, all set to values that do not count
as true, beside a group whose leaf has a file that a function refines. -/
theorem warnings_settle_contests_of_empty_values :
    let f : Value := .callable (.function "cb" "f")
    let v : Value := .list [
      .map [(.str "name", .str "A"), (.str "keys", .str "a"), (.str "file", .str ""),
        (.str "id", .int 0), (.str "function", f), (.str "template-file", .str ""),
        (.str "template", .list [])],
      .map [(.str "name", .str "G"), (.str "keys", .str "g"), (.str "children", .list [
        .map [(.str "name", .str "B"), (.str "keys", .str "b"), (.str "function", f),
          (.str "file", .str "b.org")]])]]
    ∃ r, ofForest v = .ok r ∧ r.warnings.length = 2 ∧
      ∃ blocks, List.Forall₂ Visit.IsWarnedBy ((Forest.visits v).filter Visit.isValidLeaf) blocks ∧
        r.warnings = blocks.flatten := by
  intro f v
  have hcount : (ofForest v).toOption.map (·.warnings.length) = some 2 := by decide +kernel
  cases h : ofForest v with
  | error e => simp [h, Except.toOption] at hcount
  | ok r =>
      rw [h] at hcount
      exact ⟨r, rfl, Option.some.inj hcount, warnings_settle_contests h⟩

end Report

end CaptureForest
