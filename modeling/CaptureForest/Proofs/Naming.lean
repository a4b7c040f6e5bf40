import CaptureForest.Declaration.Basic
import Mathlib.Data.List.Forall2
import Mathlib.Data.List.Induction
import Mathlib.Data.List.TakeWhile

/-!
# Names of attributes

A keyword may be spelled with colons before it and with underscores for its
hyphens.  These are all its spellings.  Every other name is kept as it is written,
and a map that is read as a declaration keeps the entries with such names, one
attribute each.
-/

namespace CaptureForest

namespace Value

variable {a b : Value}

theorem text?_of_number? {n : Int ⊕ Binary64} (h : a.number? = some n) :
    a.text? = Option.none := by
  cases a <;> simp_all [number?, text?]

theorem text?_of_scalarSame (h : scalarSame a b = true) : a.text? = b.text? := by
  unfold scalarSame at h
  split at h
  · rename_i ha hb
    rw [text?_of_number? ha, text?_of_number? hb]
  · rename_i ha hb
    rw [text?_of_number? ha, text?_of_number? hb]
  · cases h
  · split at h
    · rename_i ha hb
      rw [ha, hb, beq_iff_eq.mp h]
    · split at h <;> simp_all [text?]

/-- Values that count as the same key have the same text, if any. -/
theorem text?_of_same (h : a.same b = true) : a.text? = b.text? := by
  unfold same at h
  split at h
  · rfl
  · rfl
  · rfl
  · rfl
  · exact text?_of_scalarSame h

theorem isWord_of_same (h : a.same b = true) (word : String) : a.isWord word = b.isWord word := by
  rw [isWord, isWord, text?_of_same h]

theorem isAmong_of_same (h : a.same b = true) (words : List String) :
    a.isAmong words = b.isAmong words := by
  rw [isAmong, isAmong, text?_of_same h]

end Value

namespace Keyword

/-- The text is the word with any number of colons before it, and with underscores
for any of its hyphens. -/
def IsSpelling (word text : String) : Prop :=
  ∃ colons letters, text.toList = List.replicate colons ':' ++ letters ∧
    List.Forall₂ (fun c c' => c' = c ∨ c = '-' ∧ c' = '_') word.toList letters

/-- The name is kept under a keyword. -/
def isRecognized (name : Value) : Bool := (attributeKey name).isAmong recognized

/-! ### Spellings -/

theorem not_mem_of_recognized {word : String} (h : word ∈ recognized) :
    ':' ∉ word.toList ∧ '_' ∉ word.toList := by
  revert word
  decide +kernel

theorem isSpelling_normalize (text : String) : IsSpelling (normalize text) text := by
  obtain ⟨colons, hcolons⟩ : ∃ colons,
      text.toList.takeWhile (· == ':') = List.replicate colons ':' := by
    refine ⟨_, List.eq_replicate_of_mem fun c hc => ?_⟩
    simpa using List.mem_takeWhile_imp hc
  refine ⟨colons, text.toList.dropWhile (· == ':'), ?_, ?_⟩
  · rw [← hcolons, List.takeWhile_append_dropWhile]
  · rw [normalize, String.toList_ofList, normalizeChars, List.forall₂_map_left_iff]
    refine List.forall₂_same.mpr fun c _ => ?_
    by_cases hc : c = '_'
    · exact .inr ⟨if_pos hc, hc⟩
    · exact .inl (if_neg hc).symm

/-- Colons and underscores do not occur in a keyword, so its letters are found again
in each of its spellings. -/
theorem normalizeChars_of_spelling {word letters : List Char}
    (h : List.Forall₂ (fun c c' => c' = c ∨ c = '-' ∧ c' = '_') word letters)
    (hcolon : ':' ∉ word) (hunderscore : '_' ∉ word) :
    ':' ∉ letters ∧ letters.map (fun c => if c = '_' then '-' else c) = word := by
  induction h with
  | nil => simp
  | @cons c c' rest others hc _ ih =>
      rw [List.mem_cons, not_or] at hcolon hunderscore
      obtain ⟨hnone, hmap⟩ := ih hcolon.2 hunderscore.2
      rw [List.map_cons, hmap, List.mem_cons, not_or]
      rcases hc with rfl | ⟨rfl, rfl⟩
      · exact ⟨⟨hcolon.1, hnone⟩, by rw [if_neg (Ne.symm hunderscore.1)]⟩
      · exact ⟨⟨by decide, hnone⟩, rfl⟩

/-- A name spells a keyword exactly if it is the keyword with colons before it and
underscores for hyphens. -/
theorem normalize_eq_iff {word text : String} (hword : word ∈ recognized) :
    normalize text = word ↔ IsSpelling word text := by
  constructor
  · rintro rfl
    exact isSpelling_normalize text
  · rintro ⟨colons, letters, htext, hletters⟩
    obtain ⟨hcolon, hunderscore⟩ := not_mem_of_recognized hword
    obtain ⟨hnone, hmap⟩ := normalizeChars_of_spelling hletters hcolon hunderscore
    have hletters : letters.dropWhile (· == ':') = letters := by
      rw [List.dropWhile_eq_self_iff]
      intro hlength hfirst
      exact hnone (beq_iff_eq.mp hfirst ▸ List.getElem_mem hlength)
    have hcolons : (List.replicate colons ':').dropWhile (· == ':') = [] := by
      rw [List.dropWhile_replicate, if_pos (by decide)]
    rw [normalize, normalizeChars, htext, List.dropWhile_append, hcolons, List.isEmpty_nil,
      if_pos rfl, hletters, hmap, String.ofList_toList]

theorem attributeKey_of_isSpelling {word : String} {name : Value} (hword : word ∈ recognized)
    (h : IsSpelling word name.plain) : attributeKey name = .str word := by
  have hspelled : spelled name = word := (normalize_eq_iff hword).mpr h
  rw [attributeKey, hspelled, if_pos (List.contains_iff_mem.mpr hword)]

theorem name_mem_recognized : "name" ∈ recognized := .head _

theorem children_mem_recognized : "children" ∈ recognized := .tail _ (.tail _ (.head _))

theorem isSpelling_self (word : String) : IsSpelling word word :=
  ⟨0, word.toList, rfl, List.forall₂_same.mpr fun _ _ => .inl rfl⟩

theorem normalize_of_recognized {word : String} (h : word ∈ recognized) : normalize word = word :=
  (normalize_eq_iff h).mpr (isSpelling_self word)

/-- What is kept under a keyword is what spells it, unless a name is another word that
reads like the keyword. -/
theorem isWord_attributeKey_of_text {key : Value} {word : String} (hword : word ∈ recognized)
    (hkey : key.text? = some word → key = .str word) :
    (attributeKey key).isWord word = (spelled key == word) := by
  rw [Bool.eq_iff_iff, beq_iff_eq]
  constructor
  · intro h
    unfold attributeKey at h
    split at h
    · exact Option.some.inj (beq_iff_eq.mp h)
    · rw [hkey (beq_iff_eq.mp h)]
      exact normalize_of_recognized hword
  · intro h
    rw [attributeKey, h, if_pos (List.contains_iff_mem.mpr hword)]
    exact beq_iff_eq.mpr rfl

theorem isAmong_str {word : String} (hword : word ∈ recognized) :
    (Value.str word).isAmong recognized = true :=
  (List.contains_iff_mem.mpr hword : recognized.contains word = true)

theorem attributeKey_of_not_isRecognized {name : Value} (h : isRecognized name = false) :
    attributeKey name = name ∧ name.isAmong recognized = false := by
  unfold isRecognized at h
  unfold attributeKey at h ⊢
  split at h
  · rename_i hspelled
    rw [isAmong_str (List.contains_iff_mem.mp hspelled)] at h
    cases h
  · rename_i hspelled
    exact ⟨if_neg hspelled, h⟩

/-- A name is recognized if it spells a keyword, or is a word that reads like one. -/
theorem isRecognized_iff (name : Value) :
    isRecognized name = true ↔
      ∃ word ∈ recognized, IsSpelling word name.plain ∨ name.text? = some word := by
  constructor
  · intro h
    by_cases hspelled : spelled name ∈ recognized
    · exact ⟨_, hspelled, .inl ((normalize_eq_iff hspelled).mp rfl)⟩
    · have hkey : attributeKey name = name := by
        rw [attributeKey, if_neg (by simpa using hspelled)]
      rw [isRecognized, hkey, Value.isAmong, Option.any_eq_true] at h
      obtain ⟨word, htext, hword⟩ := h
      exact ⟨word, List.contains_iff_mem.mp hword, .inr htext⟩
  · rintro ⟨word, hword, hspelling | htext⟩
    · rw [isRecognized, attributeKey_of_isSpelling hword hspelling, isAmong_str hword]
    · by_contra hname
      rw [Bool.not_eq_true] at hname
      have hamong := (attributeKey_of_not_isRecognized hname).2
      rw [Value.isAmong, htext] at hamong
      simp [hword] at hamong

end Keyword

/-! ### The attributes of a map -/

namespace Pairs

theorem insert_of_new {key : Value} (v : Value) {pairs : Pairs}
    (h : ∀ p ∈ pairs, p.1.same key = false) : insert key v pairs = pairs ++ [(key, v)] := by
  induction pairs with
  | nil => rfl
  | cons p rest ih =>
      obtain ⟨k, w⟩ := p
      have hk : ¬ k.same key = true := by simp [h (k, w) List.mem_cons_self]
      rw [insert, if_neg hk, ih fun q hq => h q (List.mem_cons_of_mem _ hq), List.cons_append]

/-- Pairs of which the key is no keyword are not touched under a keyword. -/
theorem filter_insert_of_isAmong {key : Value} {words : List String}
    (hkey : key.isAmong words = true) (v : Value) (pairs : Pairs) :
    (insert key v pairs).filter (fun p => !p.1.isAmong words) =
      pairs.filter fun p => !p.1.isAmong words := by
  induction pairs with
  | nil => simp [insert, hkey]
  | cons p rest ih =>
      obtain ⟨k, w⟩ := p
      rw [insert]
      split
      · rename_i hsame
        have hk : k.isAmong words = true := by rw [Value.isAmong_of_same hsame, hkey]
        simp [hk]
      · rw [List.filter_cons, List.filter_cons, ih]

end Pairs

namespace Declaration

theorem ofMapping_concat (entries : Pairs) (entry : Value × Value) :
    ofMapping (entries ++ [entry]) = (ofMapping entries).accept entry := by
  rw [ofMapping, List.foldl_append, List.foldl_cons, List.foldl_nil, ofMapping]

theorem filter_accept_of_isRecognized {entry : Value × Value}
    (h : Keyword.isRecognized entry.1 = true) (d : Declaration) :
    (d.accept entry).attributes.filter (fun p => !p.1.isAmong Keyword.recognized) =
      d.attributes.filter fun p => !p.1.isAmong Keyword.recognized := by
  rw [accept]
  split
  · rfl
  · exact Pairs.filter_insert_of_isAmong h entry.2 d.attributes

theorem accept_of_not_isRecognized {entry : Value × Value}
    (h : Keyword.isRecognized entry.1 = false) (d : Declaration) :
    d.accept entry = ⟨d.name, Pairs.insert entry.1 entry.2 d.attributes⟩ := by
  obtain ⟨hkey, hamong⟩ := Keyword.attributeKey_of_not_isRecognized h
  have hname : ¬ entry.1.isWord "name" = true := by
    intro hword
    rw [Value.isAmong, beq_iff_eq.mp hword] at hamong
    revert hamong
    decide
  rw [accept, hkey, if_neg hname]

/-- A map whose keys are distinct keeps the entries with unrecognized names as they
are, in their order: none is renamed, dropped or merged with another. -/
theorem unrecognized_ofMapping {entries : Pairs}
    (h : entries.Pairwise fun p q => p.1.same q.1 = false) :
    (ofMapping entries).attributes.filter (fun p => !p.1.isAmong Keyword.recognized) =
      entries.filter fun entry => !Keyword.isRecognized entry.1 := by
  induction entries using List.reverseRecOn with
  | nil => rfl
  | append_singleton entries entry ih =>
      obtain ⟨hentries, -, hentry⟩ := List.pairwise_append.mp h
      rw [ofMapping_concat, List.filter_append, ← ih hentries]
      cases hrecognized : Keyword.isRecognized entry.1 with
      | true => simp [filter_accept_of_isRecognized hrecognized, hrecognized]
      | false =>
          have hamong := (Keyword.attributeKey_of_not_isRecognized hrecognized).2
          -- an attribute with the same key would be an earlier entry that is no keyword either
          have hnew : ∀ p ∈ (ofMapping entries).attributes, p.1.same entry.1 = false := by
            intro p hp
            rw [← Bool.not_eq_true]
            intro hsame
            have hmem : p ∈ entries.filter fun entry => !Keyword.isRecognized entry.1 := by
              rw [← ih hentries]
              exact List.mem_filter.mpr ⟨hp, by simp [Value.isAmong_of_same hsame, hamong]⟩
            have hdistinct := hentry p (List.mem_of_mem_filter hmem) entry List.mem_cons_self
            rw [hsame] at hdistinct
            cases hdistinct
          rw [accept_of_not_isRecognized hrecognized, Pairs.insert_of_new _ hnew,
            List.filter_append]
          simp [hrecognized, hamong]

end Declaration

end CaptureForest
