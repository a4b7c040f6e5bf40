import CaptureForest.Proofs.Conflicts
import CaptureForest.Proofs.SetAttributes

/-!
# Heeding a warning

A warning about competing keywords invites to delete those that are not used.  That
leaves the entry of the leaf and its hooks as they are, with one exception.  Beside a
file a function does not compete with the locations, since it refines the file.  Where
a target is used in place of the file, deleting the file turns the function into a
location, and one that comes before the target.
-/

namespace CaptureForest

namespace Pairs

/-- The pairs whose keys are none of the words. -/
def without (words : List String) (pairs : Pairs) : Pairs :=
  pairs.filter fun pair => !pair.1.isAmong words

theorem lookup?_without (words : List String) (word : String) (pairs : Pairs) :
    lookup? word (without words pairs) = if word ∈ words then none else lookup? word pairs := by
  induction pairs with
  | nil => simp [without, lookup?]
  | cons pair rest ih =>
      obtain ⟨k, v⟩ := pair
      have hrest : without words ((k, v) :: rest) =
          if k.isAmong words then without words rest else (k, v) :: without words rest := by
        rw [without, List.filter_cons]
        cases k.isAmong words <;> rfl
      by_cases hk : k.isWord word = true
      · have hamong : k.isAmong words = decide (word ∈ words) := by
          rw [Value.isAmong, beq_iff_eq.mp hk]
          simp
        by_cases hword : word ∈ words
        · rw [hrest, hamong, decide_eq_true hword, if_pos rfl, ih, if_pos hword, if_pos hword]
        · rw [hrest, hamong, decide_eq_false hword, if_neg Bool.false_ne_true, if_neg hword,
            lookup?, if_pos hk, lookup?, if_pos hk]
      · rw [lookup?, if_neg hk, hrest]
        split
        · exact ih
        · rw [lookup?, if_neg hk, ih]

end Pairs

namespace Declaration

/-- The declaration with the attributes under some words deleted. -/
def without (d : Declaration) (words : List String) : Declaration :=
  { d with attributes := d.attributes.without words }

variable {d : Declaration} {words : List String}

theorem get_without {word : String} (h : word ∉ words) :
    (d.without words).get word = d.get word := by
  rw [get, get, Pairs.get, Pairs.get, without, Pairs.lookup?_without, if_neg h]

theorem sets_without (d : Declaration) (words : List String) (word : String) :
    (d.without words).sets word = (d.sets word && !decide (word ∈ words)) := by
  by_cases h : word ∈ words
  · have hnone : (d.without words).get word = .none := by
      rw [get, Pairs.get, without, Pairs.lookup?_without, if_pos h, Value.ofOption]
    rw [sets, hnone, decide_eq_true h, Bool.not_true, Bool.and_false]
    rfl
  · rw [sets, get_without h, decide_eq_false h, Bool.not_false, Bool.and_true]
    rfl

/-- Deleting some words leaves all that is read under others. -/
theorem agreeOn_without {others : List String} (h : ∀ word ∈ others, word ∉ words) :
    AgreeOn others (d.without words) d := by
  intro word hword
  rw [setting?, setting?, sets, sets, get_without (h word hword)]

theorem hasChildren_without (h : "children" ∉ words) :
    (d.without words).hasChildren = d.hasChildren := by
  unfold hasChildren sets
  rw [get_without h]

/-- A declaration in which something but its keys is set is not bare. -/
theorem isBare_of_sets {word : String} (h : d.sets word = true) (hword : "keys" ≠ word) :
    d.isBare = false := by
  rw [← Bool.not_eq_true]
  intro hbare
  rw [not_sets_of_isBare hbare hword] at h
  cases h

theorem filter_setAttributes_without {keep : Value × Value → Bool}
    (h : ∀ pair, pair.1.isAmong words = true → keep pair = false) :
    (d.without words).setAttributes.filter keep = d.setAttributes.filter keep := by
  unfold setAttributes without Pairs.without
  rw [List.filter_filter, List.filter_filter, List.filter_filter]
  refine List.filter_congr fun pair _ => ?_
  cases hpair : pair.1.isAmong words with
  | false => simp
  | true => simp [h pair hpair]

theorem options_without (h : ∀ word ∈ words, word ∉ Keyword.options) :
    (d.without words).options = d.options := by
  refine filter_setAttributes_without fun pair hpair => ?_
  obtain ⟨word, hword, htext⟩ := (Value.isAmong_iff _ _).mp hpair
  simp [Value.isAmong, htext, h word hword]

theorem passthrough_without (h : ∀ word ∈ words, word ∈ Keyword.recognized) :
    (d.without words).passthrough = d.passthrough := by
  refine filter_setAttributes_without fun pair hpair => ?_
  obtain ⟨word, hword, htext⟩ := (Value.isAmong_iff _ _).mp hpair
  simp [Value.isAmong, htext, h word hword]

theorem unsetOr_without {P : Value → Prop} {word : String} (h : (d.get word).UnsetOr P) :
    ((d.without words).get word).UnsetOr P := by
  by_cases hword : word ∈ words
  · have hunset : (d.without words).sets word = false := by
      rw [sets_without, decide_eq_true hword, Bool.not_true, Bool.and_false]
    exact .inl hunset
  · rw [get_without hword]
    exact h

/-- Deleting attributes of a leaf that passes leaves one that passes. -/
theorem validate_without {ancestors : List Declaration} (h : d.validate ancestors = .ok ())
    (hleaf : d.hasChildren = false) (hkeys : "keys" ∉ words) (hchildren : "children" ∉ words) :
    (d.without words).validate ancestors = .ok () := by
  have hlabel := isLabelled_of_validate h
  have htexts := hasSoundTexts_of_validate h hleaf
  have hlabel' : (d.without words).IsLabelled := by
    refine ⟨?_, hlabel.name⟩
    rw [HasKeys, keys, get_without hkeys]
    exact hlabel.keys
  have htexts' : (d.without words).HasSoundTexts := {
    olp := unsetOr_without htexts.olp
    template := unsetOr_without htexts.template
    templateFile := unsetOr_without htexts.templateFile }
  obtain ⟨⟨⟩, hcheck⟩ := (checkLeaf_decides (d.without words)).ok_iff.mpr htexts'
  rw [validate_of_isLabelled hlabel', hasChildren_without hchildren, hleaf]
  exact hcheck

/-! ### The location that is used -/

/-- The location keyword that is used, by what is set. -/
inductive UsesLocation (d : Declaration) : String → Prop where
  | clock (h : d.sets "clock" = true) : UsesLocation d "clock"
  | id (hclock : d.sets "clock" = false) (h : d.sets "id" = true) : UsesLocation d "id"
  | function (hclock : d.sets "clock" = false) (hid : d.sets "id" = false)
      (h : d.sets "function" = true) (hfile : d.sets "file" = false) : UsesLocation d "function"
  | target (hclock : d.sets "clock" = false) (hid : d.sets "id" = false)
      (hfunction : d.sets "function" = true → d.sets "file" = true)
      (h : d.sets "target" = true) : UsesLocation d "target"
  | file (hclock : d.sets "clock" = false) (hid : d.sets "id" = false)
      (htarget : d.sets "target" = false) (h : d.sets "file" = true) : UsesLocation d "file"

theorem usedLocation?_eq_some_iff (d : Declaration) (word : String) :
    d.usedLocation? = some word ↔ d.UsesLocation word := by
  constructor
  · intro h
    by_cases hclock : d.sets "clock" = true
    · obtain rfl : "clock" = word := by simpa [usedLocation?, Keyword.locations, hclock] using h
      exact .clock hclock
    rw [Bool.not_eq_true] at hclock
    by_cases hid : d.sets "id" = true
    · obtain rfl : "id" = word := by
        simpa [usedLocation?, Keyword.locations, hclock, hid] using h
      exact .id hclock hid
    rw [Bool.not_eq_true] at hid
    by_cases hfunction : d.sets "function" = true ∧ d.sets "file" = false
    · obtain rfl : "function" = word := by
        simpa [usedLocation?, Keyword.locations, hclock, hid, hfunction.1, hfunction.2] using h
      exact .function hclock hid hfunction.1 hfunction.2
    rw [not_and, Bool.not_eq_false] at hfunction
    have hskipped : (d.sets "function" && !d.sets "file") = false := by
      cases hset : d.sets "function" with
      | true => simp [hfunction hset]
      | false => rfl
    by_cases htarget : d.sets "target" = true
    · obtain rfl : "target" = word := by
        simpa [usedLocation?, Keyword.locations, hclock, hid, hskipped, htarget] using h
      exact .target hclock hid hfunction htarget
    rw [Bool.not_eq_true] at htarget
    by_cases hfile : d.sets "file" = true
    · obtain rfl : "file" = word := by
        simpa [usedLocation?, Keyword.locations, hclock, hid, hskipped, htarget, hfile] using h
      exact .file hclock hid htarget hfile
    rw [Bool.not_eq_true] at hfile
    rw [hfile, Bool.not_false, Bool.and_true] at hskipped
    simp [usedLocation?, Keyword.locations, hclock, hid, hskipped, htarget, hfile] at h
  · intro h
    cases h <;> simp_all [usedLocation?, Keyword.locations]

theorem sets_without_eq_false {word : String} (h : d.sets word = false) (words : List String) :
    (d.without words).sets word = false := by
  rw [sets_without, h, Bool.false_and]

theorem sets_without_of_notMem {word : String} (h : word ∉ words) :
    (d.without words).sets word = d.sets word := by
  rw [sets_without, decide_eq_false h, Bool.not_false, Bool.and_true]

/-- A target is used in place of a file, and a function is set that refines the file. -/
def FreesFunction (d : Declaration) (used : String) (words : List String) : Prop :=
  used = "target" ∧ "file" ∈ words ∧ d.sets "function" = true

/-- Deleting locations that are not used does not change which one is used, unless a
target is used and the deletion of the file sets a function free. -/
theorem usesLocation_without {used : String} (h : d.UsesLocation used) (hused : used ∉ words)
    (hfree : ¬ d.FreesFunction used words) : (d.without words).UsesLocation used := by
  have hkept : (d.without words).sets used = d.sets used := sets_without_of_notMem hused
  cases h with
  | clock h => exact .clock (hkept.trans h)
  | id hclock h => exact .id (sets_without_eq_false hclock words) (hkept.trans h)
  | function hclock hid h hfile =>
      exact .function (sets_without_eq_false hclock words) (sets_without_eq_false hid words)
        (hkept.trans h) (sets_without_eq_false hfile words)
  | target hclock hid hfunction h =>
      refine .target (sets_without_eq_false hclock words) (sets_without_eq_false hid words) ?_
        (hkept.trans h)
      intro hset
      rw [sets_without, Bool.and_eq_true] at hset
      have hfile : "file" ∉ words := fun hfile => hfree ⟨rfl, hfile, hset.1⟩
      rw [sets_without_of_notMem hfile]
      exact hfunction hset.1
  | file hclock hid htarget h =>
      exact .file (sets_without_eq_false hclock words) (sets_without_eq_false hid words)
        (sets_without_eq_false htarget words) (hkept.trans h)

/-- Where a target is used in place of a file, deleting the file makes a function the
location that is used. -/
theorem usesLocation_of_freesFunction {used : String} (h : d.UsesLocation used)
    (hfree : d.FreesFunction used words) (hkept : "function" ∉ words) :
    (d.without words).UsesLocation "function" := by
  obtain ⟨hused, hfile, hfunction⟩ := hfree
  have hgone : (d.without words).sets "file" = false := by
    rw [sets_without, decide_eq_true hfile, Bool.not_true, Bool.and_false]
  cases h with
  | target hclock hid _ _ =>
      exact .function (sets_without_eq_false hclock words) (sets_without_eq_false hid words)
        ((sets_without_of_notMem hkept).trans hfunction) hgone
  | clock | id | function | file => simp at hused

theorem fileTarget_without (hlocations : ∀ word ∈ words, word ∈ Keyword.locations)
    (hfunction : "function" ∉ words) (path : Value) :
    (d.without words).fileTarget path = d.fileTarget path := by
  refine AgreeOn.fileTarget (agreeOn_without fun word hword hdeleted => ?_) path
  have hcommon : ∀ word ∈ "datetree" :: Keyword.fileRefinements, word ∈ Keyword.locations →
      word = "function" := by decide
  obtain rfl := hcommon word hword (hlocations word hdeleted)
  exact hfunction hdeleted

theorem target_without {used : String} (h : d.UsesLocation used)
    (h' : (d.without words).UsesLocation used) (hused : used ∉ words)
    (hlocations : ∀ word ∈ words, word ∈ Keyword.locations)
    (hfile : used = "file" → "function" ∉ words) : (d.without words).target = d.target :=
  target_congr (((d.without words).usedLocation?_eq_some_iff used).mpr h')
    ((d.usedLocation?_eq_some_iff used).mpr h) (get_without hused)
    fun hword => fileTarget_without hlocations (hfile hword)

theorem usedTemplate?_without {used : String} (h : d.usedTemplate? = some used)
    (hused : used ∉ words) : (d.without words).usedTemplate? = some used := by
  obtain ⟨hset, before, after, hsplit, hbefore⟩ := List.find?_eq_some_iff_append.mp h
  refine List.find?_eq_some_iff_append.mpr ⟨?_, before, after, hsplit, fun word hword => ?_⟩
  · rw [sets_without_of_notMem hused]
    exact hset
  · rw [sets_without_eq_false (by simpa using hbefore word hword)]
    rfl

theorem template_without {used : String} (h : d.usedTemplate? = some used) (hused : used ∉ words) :
    (d.without words).template = d.template :=
  template_congr (usedTemplate?_without h hused) h (get_without hused)

end Declaration

/-! ### The entry of a leaf -/

/-- The same with another target, if it is a leaf. -/
def Compiled.aim (target : Option Target) (c : Compiled) : Compiled :=
  match c.tree with
  | .leaf l => { c with tree := .leaf { l with target } }
  | .group .. => c

namespace Compile

variable {d : Declaration} {words : List String} {plan : Plan} {ancestors : List Declaration}

theorem tree_map_aim (h : d.hasChildren = false) :
    (tree plan ancestors d.outline).map (Compiled.aim d.target) =
      tree plan ancestors d.outline := by
  rw [tree_of_not_hasChildren h]
  cases d.validate ancestors with
  | error e => rfl
  | ok _ =>
      unfold leaf Declaration.leaf
      cases d.entryType plan.defaultType ancestors with
      | error e => rfl
      | ok type => cases d.template <;> rfl

/-- Deleting keywords for locations and templates changes nothing in a leaf that passes
but its target, if its template stays the same. -/
theorem tree_without (hvalid : d.validate ancestors = .ok ()) (hleaf : d.hasChildren = false)
    (hwords : ∀ word ∈ words, word ∈ Keyword.locations ++ Keyword.templates) {used : String}
    (hset : d.sets used = true) (hused : used ∉ words)
    (hcounts : used ∈ Keyword.locations ++ Keyword.templates)
    (htemplate : (d.without words).template = d.template) :
    tree plan ancestors (d.without words).outline =
      (tree plan ancestors d.outline).map (Compiled.aim (d.without words).target) := by
  have hother : ∀ others : List String,
      (∀ word ∈ others, word ∉ Keyword.locations ++ Keyword.templates) →
        Declaration.AgreeOn others (d.without words) d :=
    fun others h => Declaration.agreeOn_without fun word hword hdeleted =>
      h word hword (hwords word hdeleted)
  have hchildren : "children" ∉ words := fun h => absurd (hwords _ h) (by decide)
  have hleaf' : (d.without words).hasChildren = false :=
    (Declaration.hasChildren_without hchildren).trans hleaf
  have hvalid' := Declaration.validate_without hvalid hleaf
    (fun h => absurd (hwords _ h) (by decide)) hchildren
  have hkeys : "keys" ≠ used := by
    rintro rfl
    revert hcounts
    decide
  have hbare : (d.without words).isBare = d.isBare := by
    rw [Declaration.isBare_of_sets hset hkeys,
      Declaration.isBare_of_sets ((Declaration.sets_without_of_notMem hused).trans hset) hkeys]
  have htype := (hother ["type"] (by decide)).entryType rfl (hleaf'.trans hleaf.symm) hbare
    plan.defaultType ancestors
  have hkey : fullKey ancestors (d.without words) = fullKey ancestors d :=
    fullKey_congr (hother ["keys"] (by decide)).keys? ancestors
  have hhooks := (hother Keyword.hooks (by decide)).hooks rfl (fullKey ancestors d)
  have hoptions : (d.without words).options = d.options := by
    refine Declaration.options_without fun word hword => ?_
    have h : ∀ word ∈ Keyword.locations ++ Keyword.templates, word ∉ Keyword.options := by decide
    exact h word (hwords word hword)
  have hpassthrough : (d.without words).passthrough = d.passthrough := by
    refine Declaration.passthrough_without fun word hword => ?_
    have h : ∀ word ∈ Keyword.locations ++ Keyword.templates, word ∈ Keyword.recognized := by
      decide
    exact h word (hwords word hword)
  rw [tree_of_not_hasChildren hleaf, tree_of_not_hasChildren hleaf', hvalid, hvalid']
  simp only [leaf, Declaration.leaf, htype, htemplate, hkey, hhooks, hoptions, hpassthrough]
  cases d.entryType plan.defaultType ancestors with
  | error e => rfl
  | ok type => cases d.template <;> rfl

end Compile

/-! ### Warnings that are heeded -/

/-- The warning lists all keywords that compete, and says that the first is used and the
others are ignored. -/
structure Contest.Warns {α : Type} (c : Contest α) (path : String) (w : Warning) (used : String)
    (ignored : List String) : Prop where
  listed : c.listed = used :: ignored
  warning : w = c.warning path used (used :: ignored)

theorem Contest.exists_warns {α : Type} {c : Contest α} {path : String} {w : Warning}
    (h : w ∈ Declaration.conflict path c.code c.what c.listed) :
    ∃ used ignored, c.Warns path w used ignored := by
  match hlisted : c.listed with
  | [] => simp [hlisted, Declaration.conflict] at h
  | [_] => simp [hlisted, Declaration.conflict] at h
  | used :: other :: rest =>
      rw [hlisted, Declaration.conflict, List.mem_singleton] at h
      exact ⟨used, other :: rest, hlisted, h⟩

namespace Contest.Warns

variable {α : Type} {c : Contest α} {path : String} {w : Warning} {used : String}
  {ignored : List String} (h : c.Warns path w used ignored)

include h

theorem find? : c.words.find? c.competes = some used := by
  rw [← c.head?_listed, h.listed, List.head?_cons]

theorem competes_of_mem {word : String} (hword : word ∈ ignored) :
    word ∈ c.words ∧ c.competes word = true := by
  rw [← c.mem_listed_iff, h.listed]
  exact List.mem_cons_of_mem _ hword

theorem used_notMem (hnodup : c.words.Nodup) : used ∉ ignored := by
  have hlisted : c.listed.Nodup := hnodup.filter _
  rw [h.listed, List.nodup_cons] at hlisted
  exact hlisted.1

end Contest.Warns

namespace Declaration

variable {d : Declaration} {ancestors : List Declaration} {path : String} {w : Warning}
  {used : String} {ignored : List String}

section Location

variable (h : d.locationContest.Warns path w used ignored)

include h

theorem function_notMem_of_warns (hfile : d.sets "file" = true) : "function" ∉ ignored := by
  intro hfunction
  have hcompetes := (d.competesForLocation_iff _).mp (h.competes_of_mem hfunction).2
  rw [hcompetes.2 rfl] at hfile
  cases hfile

theorem usesLocation_of_warns : d.UsesLocation used := by
  rw [← usedLocation?_eq_some_iff, usedLocation?_eq_find?, h.find?]

/-- Deleting what a warning about locations calls ignored changes at most the target. -/
theorem tree_of_warns (hvalid : d.validate ancestors = .ok ()) (hleaf : d.hasChildren = false)
    (plan : Plan) :
    Compile.tree plan ancestors (d.without ignored).outline =
      (Compile.tree plan ancestors d.outline).map
        (Compiled.aim (d.without ignored).target) := by
  have hcompetes := (d.competesForLocation_iff used).mp (List.find?_some h.find?)
  have hused : used ∈ Keyword.locations := List.mem_of_find?_eq_some h.find?
  have hlocations : ∀ word ∈ ignored, word ∈ Keyword.locations :=
    fun word hword => (h.competes_of_mem hword).1
  have htemplates : AgreeOn Keyword.templates (d.without ignored) d := by
    refine agreeOn_without fun word hword hdeleted => ?_
    have hapart : ∀ word ∈ Keyword.templates, word ∉ Keyword.locations := by decide
    exact hapart word hword (hlocations word hdeleted)
  exact Compile.tree_without hvalid hleaf
    (fun word hword => List.mem_append_left _ (hlocations word hword)) hcompetes.1
    (h.used_notMem d.isDecided_locationContest.nodup) (List.mem_append_left _ hused)
    htemplates.template

theorem target_of_warns (hfree : ¬ d.FreesFunction used ignored) :
    (d.without ignored).target = d.target := by
  have huses := usesLocation_of_warns h
  have hnotMem := h.used_notMem d.isDecided_locationContest.nodup
  refine target_without huses (usesLocation_without huses hnotMem hfree) hnotMem
    (fun word hword => (h.competes_of_mem hword).1) ?_
  rintro rfl
  have hcompetes := (d.competesForLocation_iff "file").mp (List.find?_some h.find?)
  exact function_notMem_of_warns h hcompetes.1

theorem target_of_freesFunction (hfree : d.FreesFunction used ignored) :
    d.target = some (.raw (d.get "target")) ∧
      (d.without ignored).target = some (.function (d.get "function")) := by
  have huses := usesLocation_of_warns h
  have hset := (d.competesForLocation_iff "file").mp (h.competes_of_mem hfree.2.1).2
  have hkept : "function" ∉ ignored := function_notMem_of_warns h hset.1
  have huses' := usesLocation_of_freesFunction huses hfree hkept
  rw [hfree.1, ← usedLocation?_eq_some_iff] at huses
  rw [← usedLocation?_eq_some_iff] at huses'
  unfold target
  rw [huses, huses', Option.map_some, Option.map_some, get_without hkept]
  exact ⟨rfl, rfl⟩

end Location

/-- Deleting what a warning about templates calls ignored changes nothing. -/
theorem tree_of_warns_template (h : d.templateContest.Warns path w used ignored)
    (hvalid : d.validate ancestors = .ok ()) (hleaf : d.hasChildren = false) (plan : Plan) :
    Compile.tree plan ancestors (d.without ignored).outline =
      Compile.tree plan ancestors d.outline := by
  have hset : d.sets used = true := List.find?_some h.find?
  have hused : used ∈ Keyword.templates := List.mem_of_find?_eq_some h.find?
  have htemplates : ∀ word ∈ ignored, word ∈ Keyword.templates :=
    fun word hword => (h.competes_of_mem hword).1
  have hnotMem : used ∉ ignored := h.used_notMem (by decide : Keyword.templates.Nodup)
  have htarget : (d.without ignored).target = d.target := by
    refine AgreeOn.target (agreeOn_without fun word hword hdeleted => ?_)
    have hapart : ∀ word ∈ Keyword.locations ++ "datetree" :: Keyword.fileRefinements,
        word ∉ Keyword.templates := by decide
    exact hapart word hword (htemplates word hdeleted)
  rw [Compile.tree_without hvalid hleaf
    (fun word hword => List.mem_append_right _ (htemplates word hword)) hset hnotMem
    (List.mem_append_right _ hused) (template_without h.find? hnotMem), htarget,
    Compile.tree_map_aim hleaf]

/-- What a warning about a leaf that passes calls ignored may be deleted: the leaf
compiles to the same entry and the same hooks.  The one exception is a target that is
used in place of a file with a function beside it, which then takes the place of the
target. -/
theorem heeded_warning_keeps_entry {r : Report} (hleaf : d.hasChildren = false)
    (hvalid : d.validate ancestors = .ok ()) (hreport : d.outline.check ancestors {} = .ok r)
    (hw : w ∈ r.warnings) :
    (∃ used ignored, d.locationContest.Warns (d.path ancestors) w used ignored ∧
      (¬ d.FreesFunction used ignored → ∀ plan,
        Compile.tree plan ancestors (d.without ignored).outline =
          Compile.tree plan ancestors d.outline) ∧
      (d.FreesFunction used ignored →
        d.target = some (.raw (d.get "target")) ∧ ∀ plan,
          Compile.tree plan ancestors (d.without ignored).outline =
            (Compile.tree plan ancestors d.outline).map
              (Compiled.aim (some (.function (d.get "function")))))) ∨
    ∃ used ignored, d.templateContest.Warns (d.path ancestors) w used ignored ∧ ∀ plan,
      Compile.tree plan ancestors (d.without ignored).outline =
        Compile.tree plan ancestors d.outline := by
  have hconflicts : w ∈ d.conflicts (d.path ancestors) := by
    rw [outline_eq, Outline.check, hvalid] at hreport
    simp only [hleaf, Bool.false_eq_true, if_false, Except.ok.injEq, Report.foldl_addWarning] at hreport
    rw [← hreport] at hw
    exact hw
  rw [conflicts, List.mem_append, competingLocations_eq] at hconflicts
  rcases hconflicts with hlocation | htemplate
  · obtain ⟨used, ignored, h⟩ := Contest.exists_warns (c := d.locationContest) hlocation
    refine .inl ⟨used, ignored, h, fun hfree plan => ?_, fun hfree => ?_⟩
    · rw [tree_of_warns h hvalid hleaf, target_of_warns h hfree, Compile.tree_map_aim hleaf]
    · obtain ⟨htarget, htarget'⟩ := target_of_freesFunction h hfree
      refine ⟨htarget, fun plan => ?_⟩
      rw [tree_of_warns h hvalid hleaf, htarget']
  · obtain ⟨used, ignored, h⟩ := Contest.exists_warns (c := d.templateContest) htemplate
    exact .inr ⟨used, ignored, h, tree_of_warns_template h hvalid hleaf⟩

/-- An id that is zero is set, and is used in place of a file. -/
theorem heeded_warning_keeps_entry_of_id :
    let d : Declaration := ⟨.str "A", [(.str "keys", .str "a"), (.str "file", .str "a.org"),
      (.str "id", .int 0), (.str "function", .callable (.function "cb" "f"))]⟩
    let w := d.locationContest.warning "A" "id" ["id", "file"]
    ∃ used ignored, d.locationContest.Warns "A" w used ignored ∧
      (¬ d.FreesFunction used ignored → ∀ plan,
        Compile.tree plan [] (d.without ignored).outline = Compile.tree plan [] d.outline) := by
  intro d w
  have hreport : d.outline.check [] {} = .ok { warnings := [w], checked := 1 } := rfl
  rcases heeded_warning_keeps_entry rfl rfl hreport List.mem_cons_self with
    ⟨used, ignored, h, hkeeps, -⟩ | ⟨used, ignored, h, -⟩
  · exact ⟨used, ignored, h, hkeeps⟩
  · have hnone : ([] : List String) = used :: ignored := h.listed
    cases hnone

/-- A leaf with a target, a file and a function that refines the file: without the file
that is called ignored, it is the function that counts. -/
theorem entry_changes_of_freed_function :
    let f : Value := .callable (.function "cb" "f")
    let d : Declaration := ⟨.str "A", [(.str "keys", .str "a"), (.str "target", .list [.str "x"]),
      (.str "file", .str "a.org"), (.str "function", f)]⟩
    d.hasChildren = false ∧ d.validate [] = .ok () ∧
      (∃ r, d.outline.check [] {} = .ok r ∧
        d.locationContest.warning "A" "target" ["target", "file"] ∈ r.warnings) ∧
      Compile.tree {} [] (d.without ["file"]).outline ≠ Compile.tree {} [] d.outline := by
  intro f d
  have hreport : d.outline.check [] {} = .ok { warnings := _, checked := 1 } := rfl
  have hraw : Compile.tree {} [] d.outline =
      .ok ⟨.leaf { key := "a", name := .str "A", type := some .entry,
                   target := some (.raw (.list [.str "x"])) }, []⟩ := rfl
  have hfunction : Compile.tree {} [] (d.without ["file"]).outline =
      .ok ⟨.leaf { key := "a", name := .str "A", type := some .entry,
                   target := some (.function f) }, []⟩ := rfl
  refine ⟨rfl, rfl, ⟨_, hreport, List.mem_cons_self⟩, ?_⟩
  rw [hraw, hfunction]
  simp

end Declaration

end CaptureForest
