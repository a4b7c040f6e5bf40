import CaptureForest.Proofs.Partition
import CaptureForest.Proofs.Renderings

/-!
# Building declarations

A declaration is built from a map, or from a name and attributes, and a map
describes it again.  All three agree, since the names under which attributes are
kept are kept under themselves.  Two entries of a map that are kept as one
attribute come to one entry: the place is that of the first and the value that of
the last.
-/

namespace CaptureForest

namespace Keyword

/-- Two names are kept as one attribute. -/
def areOne (name other : Value) : Bool := (attributeKey name).same (attributeKey other)

/-- The text under which an attribute is kept whose name is a text. -/
def kept (text : String) : String :=
  if normalize text ∈ recognized then normalize text else text

theorem attributeKey_eq (name : Value) :
    attributeKey name = if spelled name ∈ recognized then .str (spelled name) else name := by
  simp [attributeKey]

/-- What an attribute is kept under is kept under itself. -/
theorem attributeKey_attributeKey (name : Value) :
    attributeKey (attributeKey name) = attributeKey name := by
  by_cases hspelled : spelled name ∈ recognized
  · rw [attributeKey_eq name, if_pos hspelled]
    exact attributeKey_of_isSpelling hspelled (isSpelling_self _)
  · have hkey : attributeKey name = name := by rw [attributeKey_eq, if_neg hspelled]
    rw [hkey, hkey]

/-- The members of the word types are kept as they are, texts as what they spell. -/
theorem text?_attributeKey {name : Value} {text : String} (h : name.text? = some text) :
    (attributeKey name).text? = some (kept text) := by
  cases name with
  | str s =>
      obtain rfl : s = text := Option.some.inj h
      have hspelled : spelled (.str s) = normalize s := rfl
      rw [attributeKey_eq, hspelled, kept]
      split <;> rfl
  | entryType t =>
      obtain rfl : t.word = text := Option.some.inj h
      cases t <;> decide +kernel
  | phase p =>
      obtain rfl : p.word = text := Option.some.inj h
      cases p <;> decide +kernel
  | _ => cases h

/-- The name of a declaration is what spells `name`. -/
theorem isWord_name_iff (key : Value) :
    (attributeKey key).isWord "name" = true ↔ spelled key = "name" := by
  have hkey : key.text? = some "name" → key = .str "name" := by
    intro htext
    cases key with
    | str s => exact congrArg Value.str (Option.some.inj htext)
    | entryType t => cases t <;> exact absurd htext (by decide)
    | phase p => cases p <;> exact absurd htext (by decide)
    | _ => cases htext
  rw [isWord_attributeKey_of_text name_mem_recognized hkey, beq_iff_eq]

theorem normalize_kept (text : String) : normalize (kept text) = normalize text := by
  unfold kept
  split
  · exact normalize_of_recognized ‹_›
  · rfl

/-- Texts are kept as one if they are equal or spell the same keyword. -/
theorem kept_eq_iff (s t : String) :
    kept s = kept t ↔ s = t ∨ (normalize s = normalize t ∧ normalize s ∈ recognized) := by
  constructor
  · intro h
    have hnormalize : normalize s = normalize t := by
      rw [← normalize_kept s, h, normalize_kept]
    by_cases hs : normalize s ∈ recognized
    · exact .inr ⟨hnormalize, hs⟩
    · have ht : normalize t ∉ recognized := hnormalize ▸ hs
      rw [kept, kept, if_neg hs, if_neg ht] at h
      exact .inl h
  · rintro (rfl | ⟨hnormalize, hs⟩)
    · rfl
    · have ht : normalize t ∈ recognized := hnormalize ▸ hs
      rw [kept, kept, if_pos hs, if_pos ht, hnormalize]

/-- Two texts are kept as one attribute if they are equal or spell the same keyword. -/
theorem areOne_iff {name other : Value} {s t : String} (hs : name.text? = some s)
    (ht : other.text? = some t) :
    areOne name other = true ↔
      s = t ∨ (normalize s = normalize t ∧ normalize s ∈ recognized) := by
  have hkeys := text?_attributeKey hs
  have hother := text?_attributeKey ht
  rw [← kept_eq_iff]
  constructor
  · intro h
    have htexts := Value.text?_of_same h
    rw [hkeys, hother] at htexts
    exact Option.some.inj htexts
  · intro h
    rw [← h] at hother
    exact Value.same_of_text? hkeys hother

end Keyword

/-! ### Entries that are one attribute -/

namespace Pairs

theorem same_eq_isWord {key : Value} {word : String} (hkey : key.isWord word = true)
    (other : Value) : other.same key = other.isWord word := by
  rw [Bool.eq_iff_iff]
  constructor
  · intro hsame
    rw [Value.isWord_of_same hsame word, hkey]
  · intro hother
    exact Value.same_of_text? (beq_iff_eq.mp hother) (beq_iff_eq.mp hkey)

variable {key other : Value} {word : String}

theorem insert_insert (hkey : key.isWord word = true) (v w : Value) (pairs : Pairs) :
    insert key w (insert key v pairs) = insert key w pairs := by
  induction pairs with
  | nil => simp [insert, same_eq_isWord hkey, hkey]
  | cons p rest ih =>
      obtain ⟨k, u⟩ := p
      cases hk : k.isWord word with
      | true => simp [insert, same_eq_isWord hkey, hk]
      | false => simp [insert, same_eq_isWord hkey, hk, ih]

/-- Some key is the text. -/
def Holds (pairs : Pairs) (word : String) : Prop := ∃ k ∈ keys pairs, k.isWord word = true

theorem holds_cons_iff (p : Value × Value) (rest : Pairs) :
    Holds (p :: rest) word ↔ p.1.isWord word = true ∨ Holds rest word :=
  List.exists_mem_cons_iff _ _ _

theorem holds_insert {pairs : Pairs} (h : key.isWord word = true ∨ Holds pairs word) (v : Value) :
    Holds (insert key v pairs) word := by
  unfold Holds
  rw [keys_insert]
  split
  · rename_i hany
    rcases h with hkey | h
    · obtain ⟨k, hk, hsame⟩ := List.any_eq_true.mp hany
      exact ⟨k, hk, by rw [Value.isWord_of_same hsame, hkey]⟩
    · exact h
  · rcases h with hkey | ⟨k, hk, hword⟩
    · exact ⟨key, by simp, hkey⟩
    · exact ⟨k, List.mem_append_left [key] hk, hword⟩

/-- What is there already takes a value without regard to what comes beside it. -/
theorem insert_comm {q : Value} (hkey : key.isWord word = true) (hq : q.isWord word = false)
    {pairs : Pairs} (h : Holds pairs word) (u w : Value) :
    insert q u (insert key w pairs) = insert key w (insert q u pairs) := by
  induction pairs with
  | nil => simp [Holds, keys] at h
  | cons p rest ih =>
      obtain ⟨k, x⟩ := p
      rw [holds_cons_iff] at h
      cases hk : k.isWord word with
      | true =>
          have hkq : k.same q = false := by
            rw [← Bool.not_eq_true]
            intro hsame
            rw [Value.isWord_of_same hsame, hq] at hk
            cases hk
          simp [insert, same_eq_isWord hkey, hk, hkq]
      | false =>
          have hrest : Holds rest word := by simpa [hk] using h
          cases hkq : k.same q with
          | true => simp [insert, same_eq_isWord hkey, hk, hkq]
          | false => simp [insert, same_eq_isWord hkey, hk, hkq, ih hrest]

/-- It makes no difference to what is there already in which of two ways its key is
given. -/
theorem insert_eq_insert (hkey : key.isWord word = true) (hother : other.isWord word = true)
    {pairs : Pairs} (h : Holds pairs word) (w : Value) :
    insert other w pairs = insert key w pairs := by
  induction pairs with
  | nil => simp [Holds, keys] at h
  | cons p rest ih =>
      obtain ⟨k, x⟩ := p
      rw [holds_cons_iff] at h
      simp only [insert, same_eq_isWord hkey, same_eq_isWord hother]
      cases hk : k.isWord word with
      | true => rfl
      | false => rw [ih (by simpa [hk] using h)]

end Pairs

namespace Declaration

variable {d : Declaration} {name other : Value} {word : String}

theorem accept_name {key : Value} (h : (Keyword.attributeKey key).isWord "name" = true)
    (v : Value) (d : Declaration) : d.accept (key, v) = ⟨v, d.attributes⟩ := by
  rw [accept, if_pos h]

theorem accept_attribute {key : Value} (h : (Keyword.attributeKey key).isWord "name" = false)
    (v : Value) (d : Declaration) :
    d.accept (key, v) = ⟨d.name, Pairs.insert (Keyword.attributeKey key) v d.attributes⟩ := by
  rw [accept, if_neg (by simp [h])]

/-- The declaration has a place for what is kept under the text: an attribute, or the
name, whose place does not matter. -/
def HasPlace (d : Declaration) (word : String) : Prop :=
  word = "name" ∨ Pairs.Holds d.attributes word

theorem HasPlace.accept (h : d.HasPlace word) (entry : Value × Value) :
    (d.accept entry).HasPlace word := by
  obtain ⟨key, v⟩ := entry
  refine h.imp_right fun hholds => ?_
  cases hname : (Keyword.attributeKey key).isWord "name" with
  | true =>
      rw [accept_name hname]
      exact hholds
  | false =>
      rw [accept_attribute hname]
      exact Pairs.holds_insert (.inr hholds) v

section OneAttribute

variable (hkey : (Keyword.attributeKey name).isWord word = true)

include hkey

theorem hasPlace_accept (d : Declaration) (v : Value) : (d.accept (name, v)).HasPlace word := by
  by_cases hword : word = "name"
  · exact .inl hword
  · right
    rw [accept_attribute (Value.not_isWord_of_isWord hkey hword)]
    exact Pairs.holds_insert (.inl hkey) v

theorem accept_accept (d : Declaration) (v w : Value) :
    (d.accept (name, v)).accept (name, w) = d.accept (name, w) := by
  cases hname : (Keyword.attributeKey name).isWord "name" with
  | true => rw [accept_name hname, accept_name hname, accept_name hname]
  | false =>
      rw [accept_attribute hname, accept_attribute hname, accept_attribute hname,
        Pairs.insert_insert hkey]

theorem accept_eq_accept (hother : (Keyword.attributeKey other).isWord word = true)
    (h : d.HasPlace word) (w : Value) : d.accept (other, w) = d.accept (name, w) := by
  by_cases hword : word = "name"
  · subst hword
    rw [accept_name hkey, accept_name hother]
  · rw [accept_attribute (Value.not_isWord_of_isWord hkey hword),
      accept_attribute (Value.not_isWord_of_isWord hother hword),
      Pairs.insert_eq_insert hkey hother (h.resolve_left hword)]

theorem accept_comm (hother : (Keyword.attributeKey other).isWord word = false)
    (h : d.HasPlace word) (v w : Value) :
    (d.accept (name, w)).accept (other, v) = (d.accept (other, v)).accept (name, w) := by
  by_cases hword : word = "name"
  · subst hword
    rw [accept_name hkey, accept_name hkey, accept_attribute hother, accept_attribute hother]
  · have hname := Value.not_isWord_of_isWord hkey hword
    cases hotherName : (Keyword.attributeKey other).isWord "name" with
    | true =>
        rw [accept_attribute hname, accept_attribute hname, accept_name hotherName,
          accept_name hotherName]
    | false =>
        rw [accept_attribute hname, accept_attribute hname, accept_attribute hotherName,
          accept_attribute hotherName, Pairs.insert_comm hkey hother (h.resolve_left hword)]

/-- The last value given under a name comes to the place that it has already. -/
theorem foldl_accept_last (hother : (Keyword.attributeKey other).isWord word = true)
    (between : Pairs) (h : d.HasPlace word) (w : Value) :
    (between.foldl accept d).accept (other, w) =
      (between.filter fun e => !(Keyword.attributeKey e.1).isWord word).foldl accept
        (d.accept (name, w)) := by
  induction between generalizing d with
  | nil => exact accept_eq_accept hkey hother h w
  | cons entry rest ih =>
      obtain ⟨key, v⟩ := entry
      rw [List.foldl_cons, ih (h.accept (key, v)), List.filter_cons]
      cases hentry : (Keyword.attributeKey key).isWord word with
      | true => rw [accept_eq_accept hkey hentry h, accept_accept hkey, if_neg (by simp)]
      | false => rw [← accept_comm hkey hentry h, if_pos (by simp), List.foldl_cons]

end OneAttribute

/-- Two entries that are kept as one attribute come to one, with the value of the
second in the place of the first, and nothing between them counts for it. -/
theorem ofMapping_of_areOne {text : String} (hname : name.text? = some text)
    (h : Keyword.areOne name other = true) (before between after : Pairs) (v w : Value) :
    ofMapping (before ++ (name, v) :: (between ++ (other, w) :: after)) =
      ofMapping (before ++ (name, w) ::
        (between.filter (fun e => !Keyword.areOne name e.1) ++ after)) := by
  have hkey : (Keyword.attributeKey name).isWord (Keyword.kept text) = true :=
    beq_iff_eq.mpr (Keyword.text?_attributeKey hname)
  have hone : ∀ key, Keyword.areOne name key =
      (Keyword.attributeKey key).isWord (Keyword.kept text) :=
    fun key => (Pairs.isWord_eq_same hkey _).symm
  simp only [hone] at h ⊢
  unfold ofMapping
  simp only [List.foldl_append, List.foldl_cons]
  rw [foldl_accept_last hkey h between (hasPlace_accept hkey _ v), accept_accept hkey]

/-! ### Building again -/

theorem foldl_accept_attributes {entries : Pairs}
    (h : ∀ e ∈ entries, (Keyword.attributeKey e.1).isWord "name" = false) (d : Declaration) :
    entries.foldl accept d =
      ⟨d.name, Pairs.update d.attributes
        (entries.map fun e => (Keyword.attributeKey e.1, e.2))⟩ := by
  induction entries generalizing d with
  | nil => rfl
  | cons e rest ih =>
      obtain ⟨key, v⟩ := e
      have hkey := h (key, v) List.mem_cons_self
      rw [List.foldl_cons, ih fun e he => h e (List.mem_cons_of_mem _ he), accept_attribute hkey]
      rfl

theorem declare_eq_ofMapping (name : Value) {attributes : Pairs}
    (h : ∀ p ∈ attributes, (Keyword.attributeKey p.1).isWord "name" = false) :
    declare name attributes = ofMapping ((.str "name", name) :: attributes) := by
  have hname : (Keyword.attributeKey (.str "name")).isWord "name" = true := by
    rw [Keyword.isWord_name_iff]
    exact Keyword.normalize_of_recognized Keyword.name_mem_recognized
  rw [ofMapping, List.foldl_cons, accept_name hname, foldl_accept_attributes h]
  rfl

/-- An attribute that comes from a map is kept under its key, which is not the name. -/
theorem kept_of_mem_ofMapping {entries : Pairs} {p : Value × Value}
    (h : p ∈ (ofMapping entries).attributes) :
    Keyword.attributeKey p.1 = p.1 ∧ p.1.isWord "name" = false := by
  rw [attributes_ofMapping] at h
  obtain ⟨hdeclared, hname⟩ := List.mem_filter.mp h
  obtain ⟨⟨v, hv⟩, -⟩ := Pairs.exists_of_mem_settled hdeclared
  obtain ⟨e, -, he⟩ := List.mem_map.mp hv
  refine ⟨?_, by simpa using hname⟩
  rw [← (Prod.mk.inj he).1]
  exact Keyword.attributeKey_attributeKey e.1

/-- The map that describes a declaration begins with its name, and the attributes
follow as they are. -/
theorem toMapping_eq {d : Declaration} (hdistinct : d.attributes.HasDistinctKeys)
    (hname : ∀ p ∈ d.attributes, p.1.isWord "name" = false) :
    d.toMapping = (.str "name", d.name) :: d.attributes := by
  have hword : (Value.str "name").isWord "name" = true := by decide
  rw [toMapping, Pairs.ofList_eq_settled]
  apply Pairs.settled_of_hasDistinctKeys
  apply List.Pairwise.cons
  · intro k hk
    obtain ⟨p, hp, rfl⟩ := List.mem_map.mp hk
    rw [← Pairs.isWord_eq_same hword, hname p hp]
  · exact hdistinct

theorem ofMapping_toMapping_ofMapping (entries : Pairs) :
    ofMapping (ofMapping entries).toMapping = ofMapping entries := by
  generalize hd : ofMapping entries = d
  have hkept : ∀ p ∈ d.attributes,
      Keyword.attributeKey p.1 = p.1 ∧ p.1.isWord "name" = false := by
    intro p hp
    rw [← hd] at hp
    exact kept_of_mem_ofMapping hp
  have hdistinct : d.attributes.HasDistinctKeys := hd ▸ hasDistinctKeys_ofMapping entries
  have hkeys : d.attributes.map (fun p => (Keyword.attributeKey p.1, p.2)) = d.attributes := by
    rw [List.map_congr_left fun p hp => by rw [(hkept p hp).1], List.map_id']
  rw [toMapping_eq hdistinct fun p hp => (hkept p hp).2, ← declare_eq_ofMapping]
  · change Declaration.mk d.name (Pairs.ofList _) = d
    rw [hkeys, Pairs.ofList_eq_settled, Pairs.settled_of_hasDistinctKeys hdistinct]
  · intro p hp
    rw [(hkept p hp).1]
    exact (hkept p hp).2

/-- Entries of which no two are one attribute are kept in their order. -/
theorem attributes_of_notOne {entries : Pairs}
    (h : entries.Pairwise fun e e' => Keyword.areOne e.1 e'.1 = false) :
    (ofMapping entries).attributes =
      (entries.map fun e => (Keyword.attributeKey e.1, e.2)).filter
        fun p => !p.1.isWord "name" := by
  have hdistinct :
      Pairs.HasDistinctKeys (entries.map fun e => (Keyword.attributeKey e.1, e.2)) := by
    rw [Pairs.HasDistinctKeys, Pairs.keys, List.map_map, List.pairwise_map]
    simpa only [Function.comp_apply, Keyword.areOne] using h
  rw [attributes_ofMapping, declared, Pairs.settled_of_hasDistinctKeys hdistinct]

/-- The ways of building a declaration agree.  What describes a declaration that was
read from a map is read as the same declaration; attributes that do not spell the name
come to the same beside a name and behind it in a map; names are kept under what is
kept under itself, and entries of which no two are one attribute in their order.  Two
texts are one attribute if they are equal or spell the same keyword, and then the value
given last stands where the first was given. -/
theorem building_agrees :
    (∀ entries : Pairs, ofMapping (ofMapping entries).toMapping = ofMapping entries) ∧
    (∀ (name : Value) (attributes : Pairs), (∀ p ∈ attributes, Keyword.spelled p.1 ≠ "name") →
      declare name attributes = ofMapping ((.str "name", name) :: attributes)) ∧
    (∀ name, Keyword.attributeKey (Keyword.attributeKey name) = Keyword.attributeKey name) ∧
    (∀ entries : Pairs, entries.Pairwise (fun e e' => Keyword.areOne e.1 e'.1 = false) →
      (ofMapping entries).attributes =
        (entries.map fun e => (Keyword.attributeKey e.1, e.2)).filter
          fun p => !p.1.isWord "name") ∧
    ∀ (name other : Value) (s t : String), name.text? = some s → other.text? = some t →
      (Keyword.areOne name other = true ↔ s = t ∨
        (Keyword.normalize s = Keyword.normalize t ∧ Keyword.normalize s ∈ Keyword.recognized)) ∧
      (Keyword.areOne name other = true → ∀ (before between after : Pairs) (v w : Value),
        ofMapping (before ++ (name, v) :: (between ++ (other, w) :: after)) =
          ofMapping (before ++ (name, w) ::
            (between.filter (fun e => !Keyword.areOne name e.1) ++ after))) := by
  refine ⟨ofMapping_toMapping_ofMapping, ?_, Keyword.attributeKey_attributeKey,
    fun entries => attributes_of_notOne, ?_⟩
  · intro name attributes h
    apply declare_eq_ofMapping
    intro p hp
    rw [← Bool.not_eq_true, Keyword.isWord_name_iff]
    exact h p hp
  · intro name other s t hname hother
    exact ⟨Keyword.areOne_iff hname hother, ofMapping_of_areOne hname⟩

/-- Three spellings of `clock-in`, of which the last comes after a name that only looks
like another one. -/
theorem building_agrees_of_spellings :
    let attributes : Pairs := [(.str "keys", .str "a"), (.str ":clock_in", .int 1),
      (.str "x_y", .int 2), (.str "clock-in", .int 3), (.str "clock_in", .int 4),
      (.str "x-y", .int 5)]
    let settled : Pairs := [(.str "keys", .str "a"), (.str ":clock_in", .int 4),
      (.str "x_y", .int 2), (.str "x-y", .int 5)]
    (∀ p ∈ attributes, Keyword.spelled p.1 ≠ "name") ∧
      declare (.str "A") attributes = ofMapping ((.str "name", .str "A") :: attributes) ∧
      Keyword.areOne (.str ":clock_in") (.str "clock_in") = true ∧
      ofMapping attributes = ofMapping settled ∧
      settled.Pairwise (fun e e' => Keyword.areOne e.1 e'.1 = false) ∧
      (ofMapping settled).attributes = [(.str "keys", .str "a"), (.str "clock-in", .int 4),
        (.str "x_y", .int 2), (.str "x-y", .int 5)] := by
  intro attributes settled
  obtain ⟨-, hdeclare, -, hkept, hone⟩ := building_agrees
  have hnames : ∀ p ∈ attributes, Keyword.spelled p.1 ≠ "name" := by decide +kernel
  have hspells := hone (.str ":clock_in") (.str "clock_in") ":clock_in" "clock_in" rfl rfl
  have hclock : Keyword.areOne (.str ":clock_in") (.str "clock_in") = true :=
    hspells.1.mpr (by decide +kernel)
  have hothers : Keyword.areOne (.str ":clock_in") (.str "x_y") = false ∧
      Keyword.areOne (.str ":clock_in") (.str "clock-in") = true := by
    decide +kernel
  have hbetween := hspells.2 hclock [(.str "keys", .str "a")]
    [(.str "x_y", .int 2), (.str "clock-in", .int 3)] [(.str "x-y", .int 5)] (.int 1) (.int 4)
  simp only [List.filter_cons, List.filter_nil, hothers.1, hothers.2] at hbetween
  have hsettled : settled.Pairwise (fun e e' => Keyword.areOne e.1 e'.1 = false) := by
    decide +kernel
  exact ⟨hnames, hdeclare _ _ hnames, hclock, hbetween, hsettled,
    (hkept settled hsettled).trans rfl⟩

end Declaration

end CaptureForest
