import CaptureForest.Proofs.Conflicts
import CaptureForest.Proofs.Records

/-!
# What the record of a target tells

The record of a target begins with a tag, and the tag tells what follows: nothing for
the clock, one value for an id, a function or a file, two for a file that is refined by
one value, and a path with the elements of an outline for a file that is refined by
these.  The datetree has its mark in the tag and no value.  So two targets that are
built from declarations have the same record just if they say the same.
-/

namespace CaptureForest

variable {R : Value → Value → Prop}

/-- The elements of an outline path; what is no sequence is the only element. -/
def Value.pathElements (v : Value) : List Value := v.items?.getD [v]

theorem Value.isText_of_mem_pathElements {v : Value} (h : v.HoldsTexts) :
    ∀ element ∈ v.pathElements, element.isText = true := by
  unfold pathElements
  cases h with
  | text htext =>
      have hitems : v.items? = Option.none := by
        cases v with
        | list _ | tuple _ => cases htext
        | _ => rfl
      rw [hitems]
      simpa using htext
  | texts hitems h =>
      rw [hitems]
      exact h

namespace Target

/-! ### Shapes of records -/

/-- A refinement of a file by one value. -/
inductive Refinement where
  | headline
  | regexp
  | function

def Refinement.word : Refinement → String
  | headline => "headline"
  | regexp => "regexp"
  | function => "function"

theorem Refinement.word_ne_olp (r : Refinement) : r.word ≠ "olp" := by
  cases r <;> decide

/-- What the record of a target is about. -/
inductive Shape where
  | clock
  | id
  | function
  | file
  | refined (r : Refinement)
  | outline
  | datetree

namespace Shape

def tag : Shape → String
  | clock => "clock"
  | id => "id"
  | function => "function"
  | file => "file"
  | refined r => "file+" ++ r.word
  | outline => "file+olp"
  | datetree => "file+olp+datetree"

/-- The shape of a record by its tag. -/
def ofTag? : String → Option Shape
  | "clock" => some clock
  | "id" => some id
  | "function" => some function
  | "file" => some file
  | "file+headline" => some (refined .headline)
  | "file+regexp" => some (refined .regexp)
  | "file+function" => some (refined .function)
  | "file+olp" => some outline
  | "file+olp+datetree" => some datetree
  | _ => none

theorem ofTag?_tag (s : Shape) : ofTag? s.tag = some s := by
  cases s with
  | refined r => cases r <;> rfl
  | clock | id | function | file | outline | datetree => rfl

theorem tag_inj {s s' : Shape} : s.tag = s'.tag ↔ s = s' := by
  constructor
  · intro h
    have hshape := congrArg ofTag? h
    rw [ofTag?_tag, ofTag?_tag] at hshape
    exact Option.some.inj hshape
  · exact congrArg tag

end Shape

/-- The record of a target has a shape, which says what follows the tag. -/
inductive HasShape : Target → Shape → List Value → Prop where
  | clock : HasShape .clock .clock []
  | id (id : Value) : HasShape (.id id) .id [id]
  | function (f : Value) : HasShape (.function f) .function [f]
  | file (path : Value) : HasShape (.file path none .none .none) .file [path]
  | refined (r : Refinement) (path v : Value) :
      HasShape (.file path (some r.word) v .none) (.refined r) [path, v]
  | outline (path v : Value) (h : ∀ element ∈ v.pathElements, element.isText = true) :
      HasShape (.file path (some "olp") v .none) .outline (path :: v.pathElements)
  | datetree (path v datetree : Value)
      (h : ∀ element ∈ v.pathElements, element.isText = true) (hset : datetree.isSet = true) :
      HasShape (.file path (some "olp") v datetree) .datetree (path :: v.pathElements)

theorem HasShape.record {t : Target} {s : Shape} {arguments : List Value}
    (h : t.HasShape s arguments) : t.record = .list (.str s.tag :: arguments) := by
  cases h with
  | refined r path v => cases r <;> rfl
  | datetree path v datetree h hset =>
      simp [Target.record, Target.tag, fileTag, fileArguments, hset, Value.pathElements, Shape.tag]
  | clock | id | function | file | outline => rfl

/-- The record of a target begins with a tag, which gives the shape of what follows. -/
structure IsTagged (t : Target) (tag : String) (arguments : List Value) : Prop where
  record : t.record = .list (.str tag :: arguments)
  shape : ∃ s, Shape.ofTag? tag = some s ∧ t.HasShape s arguments

/-! ### Targets that say the same -/

/-- The refinements of two files say the same: there is none, or the elements of the
outline paths are alike, or the one value of another refinement. -/
inductive SameRefinement (R : Value → Value → Prop) : Option String → Value → Value → Prop where
  | none : SameRefinement R none .none .none
  | outline {v w : Value} (h : List.Forall₂ R v.pathElements w.pathElements) :
      SameRefinement R (some "olp") v w
  | value {word : String} {v w : Value} (hword : word ≠ "olp") (h : R v w) :
      SameRefinement R (some word) v w

/-- Two targets of one kind say the same.  Of a datetree it counts only whether it is
set. -/
inductive Alike (R : Value → Value → Prop) : Target → Target → Prop where
  | clock : Alike R .clock .clock
  | id {v w : Value} (h : R v w) : Alike R (.id v) (.id w)
  | function {f g : Value} (h : R f g) : Alike R (.function f) (.function g)
  | file {path path' argument argument' datetree datetree' : Value} {refinement : Option String}
      (hpath : R path path') (hrefinement : SameRefinement R refinement argument argument')
      (hdatetree : datetree.isSet = datetree'.isSet) :
      Alike R (.file path refinement argument datetree) (.file path' refinement argument' datetree')

theorem fileArguments_of_ne {word : String} (h : word ≠ "olp") (v : Value) :
    fileArguments (some word) v = [v] := by
  unfold fileArguments
  split
  · contradiction
  · rename_i holp
    exact absurd (Option.some.inj holp) h
  · rfl

theorem SameRefinement.fileArguments {refinement : Option String} {v w : Value}
    (h : SameRefinement R refinement v w) :
    List.Forall₂ R (fileArguments refinement v) (Target.fileArguments refinement w) := by
  cases h with
  | none => exact .nil
  | outline h => exact h
  | value hword h =>
      rw [fileArguments_of_ne hword, fileArguments_of_ne hword]
      exact .cons h .nil

/-- Targets that say the same have the same record. -/
theorem Alike.record (hR : Value.IsExactOnTexts R) {t t' : Target} (h : Alike R t t') :
    ∃ items items', t.record = .list items ∧ t'.record = .list items' ∧
      List.Forall₂ R items items' := by
  cases h with
  | clock => exact ⟨_, _, rfl, rfl, .cons ((hR _ _).mpr rfl) .nil⟩
  | id h => exact ⟨_, _, rfl, rfl, .cons ((hR _ _).mpr rfl) (.cons h .nil)⟩
  | function h => exact ⟨_, _, rfl, rfl, .cons ((hR _ _).mpr rfl) (.cons h .nil)⟩
  | file hpath hrefinement hdatetree =>
      refine ⟨_, _, rfl, rfl, .cons ((hR _ _).mpr ?_) (.cons hpath hrefinement.fileArguments)⟩
      rw [tag, tag, fileTag, fileTag, hdatetree]

/-- Records that are the same come from targets that say the same. -/
theorem HasShape.alike {t t' : Target} {s : Shape} {arguments arguments' : List Value}
    (h : t.HasShape s arguments) (h' : t'.HasShape s arguments')
    (harguments : List.Forall₂ R arguments arguments') : Alike R t t' := by
  -- a shape fixes the variant and the refinement, so only the values are left to compare
  cases h with
  | clock =>
      cases h' with
      | clock => exact .clock
  | id v =>
      cases h' with
      | id w => exact .id (List.forall₂_cons.mp harguments).1
  | function f =>
      cases h' with
      | function g => exact .function (List.forall₂_cons.mp harguments).1
  | file path =>
      cases h' with
      | file path' => exact .file (List.forall₂_cons.mp harguments).1 .none rfl
  | refined r path v =>
      cases h' with
      | refined _ path' w =>
          obtain ⟨hpath, hrest⟩ := List.forall₂_cons.mp harguments
          exact .file hpath (.value r.word_ne_olp (List.forall₂_cons.mp hrest).1) rfl
  | outline path v _ =>
      cases h' with
      | outline path' w _ =>
          obtain ⟨hpath, helements⟩ := List.forall₂_cons.mp harguments
          exact .file hpath (.outline helements) rfl
  | datetree path v datetree _ hset =>
      cases h' with
      | datetree path' w datetree' _ hset' =>
          obtain ⟨hpath, helements⟩ := List.forall₂_cons.mp harguments
          exact .file hpath (.outline helements) (hset.trans hset'.symm)

theorem HasShape.record_related_iff (hR : Value.IsExactOnTexts R) {t t' : Target} {s s' : Shape}
    {arguments arguments' : List Value} (h : t.HasShape s arguments)
    (h' : t'.HasShape s' arguments') :
    List.Forall₂ R (.str s.tag :: arguments) (.str s'.tag :: arguments') ↔ Alike R t t' := by
  constructor
  · intro hrecord
    obtain ⟨htag, harguments⟩ := List.forall₂_cons.mp hrecord
    rw [hR, Shape.tag_inj] at htag
    subst htag
    exact h.alike h' harguments
  · intro halike
    obtain ⟨items, items', hitems, hitems', hrelated⟩ := halike.record hR
    rw [h.record] at hitems
    rw [h'.record] at hitems'
    rw [Value.list.inj hitems, Value.list.inj hitems']
    exact hrelated

end Target

/-! ### Targets of declarations -/

namespace Pairs

theorem exists_key_of_lookup? {word : String} {pairs : Pairs} {v : Value}
    (h : lookup? word pairs = some v) : ∃ key ∈ keys pairs, key.isWord word = true := by
  induction pairs with
  | nil => cases h
  | cons pair rest ih =>
      obtain ⟨k, w⟩ := pair
      by_cases hk : k.isWord word = true
      · exact ⟨k, List.mem_cons_self, hk⟩
      · rw [lookup?, if_neg hk] at h
        obtain ⟨key, hkey, hword⟩ := ih h
        exact ⟨key, List.mem_cons_of_mem _ hkey, hword⟩

end Pairs

namespace Declaration

variable {d : Declaration} {ancestors : List Declaration}

theorem exists_key_of_sets {word : String} (h : d.sets word = true) :
    ∃ key ∈ Pairs.keys d.attributes, key.isWord word = true := by
  unfold sets get Pairs.get at h
  cases hlookup : Pairs.lookup? word d.attributes with
  | none => simp [hlookup, Value.ofOption, Value.isSet] at h
  | some v => exact Pairs.exists_key_of_lookup? hlookup

/-- What a parent may carry is no location. -/
theorem target_of_hasChildren (h : d.validate ancestors = .ok ())
    (hchildren : d.hasChildren = true) : d.target = none := by
  have honly : d.HasOnlyStructural := by
    rw [validate_of_isLabelled (isLabelled_of_validate h), hchildren, if_pos rfl, checkParent] at h
    rw [← extraAttributes_eq_nil_iff]
    cases hextra : d.extraAttributes with
    | nil => rfl
    | cons name rest =>
        rw [hextra] at h
        cases hnames : listNames (name :: rest) <;> simp [hnames] at h
  have hunused : d.usedLocation? = none := by
    unfold usedLocation?
    rw [List.find?_eq_none]
    intro word hword hcompetes
    rw [Bool.and_eq_true] at hcompetes
    obtain ⟨key, hkey, hkeyword⟩ := exists_key_of_sets hcompetes.1
    obtain ⟨other, hother, htext⟩ := honly key hkey
    obtain rfl : other = word := Option.some.inj (htext.symm.trans (beq_iff_eq.mp hkeyword))
    have hapart : ∀ word ∈ Keyword.locations, word ∉ Keyword.structural := by decide
    exact hapart _ hword hother
  rw [target, hunused, Option.map_none]

theorem exists_refinement {word : String} (hword : word ∈ Keyword.fileRefinements)
    (hne : word ≠ "olp") : ∃ r : Target.Refinement, r.word = word := by
  simp only [Keyword.fileRefinements, List.mem_cons, List.not_mem_nil, or_false] at hword
  rcases hword with rfl | rfl | rfl | rfl
  · exact absurd rfl hne
  · exact ⟨.headline, rfl⟩
  · exact ⟨.regexp, rfl⟩
  · exact ⟨.function, rfl⟩

theorem exists_hasShape_fileTarget (htexts : d.HasSoundTexts) (path : Value) :
    ∃ s arguments, (d.fileTarget path).HasShape s arguments := by
  unfold fileTarget
  cases hrefinement : d.fileRefinement? with
  | none => exact ⟨_, _, .file path⟩
  | some word =>
      have hset : d.sets word = true := List.find?_some hrefinement
      by_cases holp : word = "olp"
      · subst holp
        have helements : ∀ element ∈ (d.get "olp").pathElements, element.isText = true := by
          refine Value.isText_of_mem_pathElements (htexts.olp.resolve_left ?_)
          rw [Bool.not_eq_false]
          exact hset
        cases hdatetree : d.sets "datetree" with
        | true => exact ⟨_, _, .datetree path _ _ helements hdatetree⟩
        | false => exact ⟨_, _, .outline path _ helements⟩
      · obtain ⟨r, rfl⟩ := exists_refinement (List.mem_of_find?_eq_some hrefinement) holp
        simp only [holp, decide_false, Bool.false_and, Bool.false_eq_true, if_false]
        exact ⟨_, _, .refined r path _⟩

/-- A target that is built from a valid declaration and is no raw descriptor has a
record of one of the shapes. -/
theorem exists_hasShape (hvalid : d.validate ancestors = .ok ()) {t : Target}
    (ht : d.target = some t) (hraw : ∀ descriptor, t ≠ .raw descriptor) :
    ∃ s arguments, t.HasShape s arguments := by
  have hleaf : d.hasChildren = false := by
    rw [← Bool.not_eq_true]
    intro hchildren
    rw [target_of_hasChildren hvalid hchildren] at ht
    cases ht
  have htexts := hasSoundTexts_of_validate hvalid hleaf
  unfold target at ht
  obtain ⟨word, hused, rfl⟩ := Option.map_eq_some_iff.mp ht
  have hword : word ∈ Keyword.locations := List.mem_of_find?_eq_some hused
  simp only [Keyword.locations, List.mem_cons, List.not_mem_nil, or_false] at hword
  rcases hword with rfl | rfl | rfl | rfl | rfl
  · exact ⟨_, _, .clock⟩
  · exact ⟨_, _, .id _⟩
  · exact ⟨_, _, .function _⟩
  · exact absurd rfl (hraw _)
  · exact exists_hasShape_fileTarget htexts _

/-- The targets of valid declarations have the same record just if they say the same,
raw descriptors apart.  The tag of a record gives its shape. -/
theorem target_records_decode (hR : Value.IsExactOnTexts R) {d d' : Declaration}
    {ancestors ancestors' : List Declaration} (hvalid : d.validate ancestors = .ok ())
    (hvalid' : d'.validate ancestors' = .ok ()) {t t' : Target} (ht : d.target = some t)
    (ht' : d'.target = some t') (hraw : ∀ descriptor, t ≠ .raw descriptor)
    (hraw' : ∀ descriptor, t' ≠ .raw descriptor) :
    ∃ tag arguments tag' arguments', t.IsTagged tag arguments ∧ t'.IsTagged tag' arguments' ∧
      (List.Forall₂ R (.str tag :: arguments) (.str tag' :: arguments') ↔ Target.Alike R t t') := by
  obtain ⟨s, arguments, h⟩ := exists_hasShape hvalid ht hraw
  obtain ⟨s', arguments', h'⟩ := exists_hasShape hvalid' ht' hraw'
  exact ⟨s.tag, arguments, s'.tag, arguments', ⟨h.record, s, s.ofTag?_tag, h⟩,
    ⟨h'.record, s', s'.ofTag?_tag, h'⟩, h.record_related_iff hR h'⟩

/-- An outline path that is one text beside a tuple of it, under datetrees that are not
the same. -/
theorem target_records_decode_of_outlines :
    let d : Declaration := ⟨.str "A", [(.str "keys", .str "a"), (.str "file", .str "a.org"),
      (.str "olp", .str "Inbox"), (.str "datetree", .bool true)]⟩
    let d' : Declaration := ⟨.str "B", [(.str "datetree", .int 0), (.str "keys", .str "b"),
      (.str "olp", .tuple [.str "Inbox"]), (.str "headline", .str "H"), (.str "file", .str "a.org")]⟩
    ∃ t t', d.target = some t ∧ d'.target = some t' ∧
      t.record = .list [.str "file+olp+datetree", .str "a.org", .str "Inbox"] ∧
      Target.Alike (fun a b => a.same b = true) t t' := by
  intro d d'
  have ht : d.target =
      some (.file (.str "a.org") (some "olp") (.str "Inbox") (.bool true)) := rfl
  have ht' : d'.target =
      some (.file (.str "a.org") (some "olp") (.tuple [.str "Inbox"]) (.int 0)) := rfl
  obtain ⟨tag, arguments, tag', arguments', htagged, htagged', hiff⟩ :=
    @target_records_decode _ Value.same_isExactOnTexts d d' [] [] rfl rfl _ _ ht ht' nofun nofun
  have hitems := Value.list.inj htagged.record
  have hitems' := Value.list.inj htagged'.record
  rw [← hitems, ← hitems'] at hiff
  exact ⟨_, _, ht, ht', rfl, hiff.mp ((Value.sameItems_iff _ _).mp rfl)⟩

end Declaration

end CaptureForest
