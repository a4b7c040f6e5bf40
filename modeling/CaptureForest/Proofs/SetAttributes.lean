import CaptureForest.Compile.Basic
import CaptureForest.Proofs.Rules
import Mathlib.Data.List.Find

/-!
# What a leaf reads

A declaration without children is checked and resolved from what is set in it, and
each part of it reads only a few words.  Two declarations that agree on these words
have the part in common, whatever else they hold and in whatever order.
-/

namespace CaptureForest

namespace Declaration

/-- The value under a word, if it is set. -/
def setting? (d : Declaration) (word : String) : Option Value :=
  if d.sets word then some (d.get word) else none

/-- The same of the words are set in two declarations, and to the same values. -/
def AgreeOn (words : List String) (d d' : Declaration) : Prop :=
  ∀ word ∈ words, d.setting? word = d'.setting? word

theorem isSome_setting? (d : Declaration) (word : String) :
    (d.setting? word).isSome = d.sets word := by
  unfold setting?
  cases d.sets word <;> rfl

theorem setting?_of_sets {d : Declaration} {word : String} (h : d.sets word = true) :
    d.setting? word = some (d.get word) := if_pos h

theorem path_congr {d d' : Declaration} (hname : d.name = d'.name)
    (ancestors : List Declaration) : d.path ancestors = d'.path ancestors := by
  simp [path, hname]

/-- A value that is not set has no text. -/
theorem text?_get (d : Declaration) (word : String) :
    (d.get word).text? = (d.setting? word).bind Value.text? := by
  unfold setting? sets
  cases d.get word with
  | bool b => cases b <;> rfl
  | _ => rfl

/-! ### What is used -/

theorem target_congr {d d' : Declaration} {word : String} (h : d.usedLocation? = some word)
    (h' : d'.usedLocation? = some word) (hvalue : d.get word = d'.get word)
    (hfile : word = "file" → ∀ path, d.fileTarget path = d'.fileTarget path) :
    d.target = d'.target := by
  have hword : word ∈ Keyword.locations := List.mem_of_find?_eq_some h
  unfold target
  rw [h, h', Option.map_some, Option.map_some, hvalue]
  simp only [Keyword.locations, List.mem_cons, List.not_mem_nil, or_false] at hword
  rcases hword with rfl | rfl | rfl | rfl | rfl
  · rfl
  · rfl
  · rfl
  · rfl
  · exact congrArg some (hfile rfl _)

theorem template_congr {d d' : Declaration} {word : String} (h : d.usedTemplate? = some word)
    (h' : d'.usedTemplate? = some word) (hvalue : d.get word = d'.get word) :
    d.template = d'.template := by
  have hword : word ∈ Keyword.templates := List.mem_of_find?_eq_some h
  unfold template
  rw [h, h']
  simp only [Keyword.templates, List.mem_cons, List.not_mem_nil, or_false] at hword
  rcases hword with rfl | rfl | rfl
  · simp only [hvalue]
  · simp only [hvalue]
  · exact congrArg (fun v => Except.ok (some (Template.function v))) hvalue

namespace AgreeOn

variable {words some : List String} {d d' : Declaration}

theorem mono (h : AgreeOn words d d') (hsome : some ⊆ words) : AgreeOn some d d' :=
  fun word hword => h word (hsome hword)

theorem sets (h : AgreeOn words d d') {word : String} (hword : word ∈ words) :
    d.sets word = d'.sets word := by
  rw [← isSome_setting?, ← isSome_setting?, h word hword]

theorem get (h : AgreeOn words d d') {word : String} (hword : word ∈ words)
    (hset : d'.sets word = true) : d.get word = d'.get word := by
  have hvalue := h word hword
  rw [setting?_of_sets hset, setting?_of_sets (h.sets hword ▸ hset)] at hvalue
  exact Option.some.inj hvalue

theorem filter_sets (h : AgreeOn words d d') : words.filter d.sets = words.filter d'.sets :=
  List.filter_congr fun _ hword => h.sets hword

theorem find?_sets (h : AgreeOn words d d') : words.find? d.sets = words.find? d'.sets :=
  List.find?_congr fun _ hword => h.sets hword

/-! ### Targets and templates -/

theorem usedLocation? (h : AgreeOn Keyword.locations d d') :
    d.usedLocation? = d'.usedLocation? := by
  refine List.find?_congr fun word hword => ?_
  rw [h.sets hword, h.sets (by decide)]

theorem fileTarget (h : AgreeOn ("datetree" :: Keyword.fileRefinements) d d') (path : Value) :
    d.fileTarget path = d'.fileTarget path := by
  have hrefinements := h.mono (List.subset_cons_self _ _)
  unfold Declaration.fileTarget fileRefinement?
  rw [hrefinements.find?_sets, h.sets List.mem_cons_self]
  cases hfound : Keyword.fileRefinements.find? d'.sets with
  | none => rfl
  | some word =>
      have hvalue := hrefinements.get (List.mem_of_find?_eq_some hfound) (List.find?_some hfound)
      cases hdatetree : d'.sets "datetree" with
      | false => simp only [hvalue, Bool.and_false, Bool.false_eq_true, if_false]
      | true => simp only [hvalue, h.get List.mem_cons_self hdatetree]

theorem target (h : AgreeOn (Keyword.locations ++ "datetree" :: Keyword.fileRefinements) d d') :
    d.target = d'.target := by
  have hlocations := h.mono (List.subset_append_left _ _)
  have hfile := h.mono (List.subset_append_right _ _)
  have hused := hlocations.usedLocation?
  cases hfound : d'.usedLocation? with
  | none => rw [Declaration.target, Declaration.target, hused, hfound]; rfl
  | some word =>
      have hset := List.find?_some hfound
      rw [Bool.and_eq_true] at hset
      have hvalue := hlocations.get (List.mem_of_find?_eq_some hfound) hset.1
      exact target_congr (hused.trans hfound) hfound hvalue fun _ => hfile.fileTarget

theorem template (h : AgreeOn Keyword.templates d d') : d.template = d'.template := by
  have hused : d.usedTemplate? = d'.usedTemplate? := h.find?_sets
  cases hfound : d'.usedTemplate? with
  | none => rw [Declaration.template, Declaration.template, hused, hfound]
  | some word =>
      have hvalue := h.get (List.mem_of_find?_eq_some hfound) (List.find?_some hfound)
      exact template_congr (hused.trans hfound) hfound hvalue

theorem hooks (h : AgreeOn Keyword.hooks d d') (hname : d.name = d'.name) (key : String) :
    d.hooks key = d'.hooks key := by
  have hslot : ∀ p : HookPhase, p.slot ∈ Keyword.hooks :=
    fun p => List.mem_map_of_mem p.mem_all
  have hsets : ∀ p : HookPhase, d.sets p.slot = d'.sets p.slot := fun p => h.sets (hslot p)
  unfold Declaration.hooks
  simp only [hsets]
  refine List.map_congr_left fun p hp => ?_
  rw [h.get (hslot p) (List.mem_filter.mp hp).2, hname]

/-! ### Rules and keys -/

theorem keys? (h : AgreeOn ["keys"] d d') : d.keys? = d'.keys? := by
  unfold Declaration.keys? keys
  rw [text?_get, text?_get, h "keys" List.mem_cons_self]

/-- A demand is made on a value only if it is set. -/
theorem demand (h : AgreeOn words d d') {word : String} (hword : word ∈ words)
    (isMet : Value → Bool) (fault : Value → Fault) :
    (if (d.get word).isSet && !isMet (d.get word) then Except.error (fault (d.get word))
      else .ok ()) =
    if (d'.get word).isSet && !isMet (d'.get word) then Except.error (fault (d'.get word))
      else .ok () := by
  have hsets : (d.get word).isSet = (d'.get word).isSet := h.sets hword
  cases hset : (d'.get word).isSet with
  | true => rw [h.get hword hset, hset]
  | false =>
      rw [hsets, hset, Bool.false_and, Bool.false_and]
      rfl

theorem checkTexts (h : AgreeOn words d d') (hname : d.name = d'.name) {word : String}
    (hword : word ∈ words) : d.checkTexts word = d'.checkTexts word := by
  unfold Declaration.checkTexts
  rw [hname]
  exact h.demand hword Value.isTextOrTexts
    fun v => .capture (.textOrTexts d'.name (.str word) v)

theorem checkLeaf (h : AgreeOn ["olp", "template", "template-file"] d d')
    (hname : d.name = d'.name) : d.checkLeaf = d'.checkLeaf := by
  have hfile := h.demand (by decide : "template-file" ∈ _) isPathLike
    fun v => .capture (.textOrTexts d'.name (.str "template-file") v)
  unfold Declaration.checkLeaf
  rw [h.checkTexts hname (by decide), h.checkTexts hname (by decide), hname]
  simp only [hfile]

theorem entryType (h : AgreeOn ["type"] d d') (hname : d.name = d'.name)
    (hchildren : d.hasChildren = d'.hasChildren) (hbare : d.isBare = d'.isBare)
    (default : EntryType) (ancestors : List Declaration) :
    d.entryType default ancestors = d'.entryType default ancestors := by
  have hword : "type" ∈ ["type"] := List.mem_cons_self
  unfold Declaration.entryType unknownType
  rw [hchildren, hbare, h.sets hword, path_congr hname, hname]
  cases hset : d'.sets "type" with
  | true => rw [h.get hword hset]
  | false => rfl

end AgreeOn

/-! ### Leaves -/

variable {d d' : Declaration} {ancestors : List Declaration}

theorem validate_of_not_hasChildren (h : d.hasChildren = false) :
    d.validate ancestors =
      if d.keys?.isNone then .error (.capture (.missingKeys d.name (d.path ancestors)))
      else if d.name.isAbsent then .error (.capture (.missingName d.name (d.path ancestors)))
      else d.checkLeaf := by
  unfold validate
  cases d.keys? <;> simp [h]

end Declaration

namespace Compile

variable {plan : Plan} {d d' : Declaration} {ancestors : List Declaration}

theorem fullKey_congr (h : d.keys? = d'.keys?) (ancestors : List Declaration) :
    fullKey ancestors d = fullKey ancestors d' := by
  simp [fullKey, h]

theorem tree_of_not_hasChildren (h : d.hasChildren = false) :
    tree plan ancestors d.outline =
      match d.validate ancestors with
      | .error e => .error e
      | .ok () => leaf plan ancestors d := by
  rw [Declaration.outline_eq, tree]
  cases d.validate ancestors <;> simp [h]

end Compile

end CaptureForest
