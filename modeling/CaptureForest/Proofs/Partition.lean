import CaptureForest.Proofs.AttributeOrder
import CaptureForest.Proofs.Records

/-!
# What a leaf shows of a map

The entries of a map declare attributes, some of them more than once and in several
spellings.  Taking the entries in one after another comes to this: an attribute
stands where it is declared first and has the value that is declared last.  A leaf
shows two parts of these attributes, its options and what it hands through, each in
declared order, and nothing else of them.
-/

namespace CaptureForest

namespace Pairs

/-- The value that the pairs give to a key last, or else the value at hand. -/
def lastValue (key value : Value) (later : Pairs) : Value :=
  ((later.filter fun p => key.same p.1).getLast?.map (·.2)).getD value

/-- The pairs under other keys. -/
def others (key : Value) (pairs : Pairs) : Pairs := pairs.filter fun p => !key.same p.1

/-- Every key once: where it is given first, with the value that is given last. -/
def settled : Pairs → Pairs
  | [] => []
  | (key, value) :: later => (key, lastValue key value later) :: settled (others key later)
termination_by pairs => pairs.length
decreasing_by exact Nat.lt_succ_of_le (List.length_filter_le _ _)

theorem lastValue_cons (key value : Value) (p : Value × Value) (later : Pairs) :
    lastValue key value (p :: later) =
      lastValue key (if key.same p.1 then p.2 else value) later := by
  unfold lastValue
  rw [List.filter_cons]
  cases key.same p.1 with
  | false => rfl
  | true =>
      simp only [if_true, List.getLast?_cons, Option.map_some, Option.getD_some]
      cases (later.filter fun p => key.same p.1).getLast? <;> rfl

/-- The first pair stays the first; what is given to its key goes nowhere else. -/
theorem update_cons (key value : Value) (pairs changes : Pairs) :
    update ((key, value) :: pairs) changes =
      (key, lastValue key value changes) ::
        update pairs (others key changes) := by
  unfold update others
  induction changes generalizing value pairs with
  | nil => rfl
  | cons p rest ih =>
      rw [List.foldl_cons, insert, lastValue_cons, List.filter_cons]
      cases key.same p.1 with
      | false => simp [ih]
      | true => simp [ih]

theorem ofList_eq_settled (pairs : Pairs) : ofList pairs = settled pairs := by
  induction pairs using settled.induct with
  | case1 => rw [settled]; rfl
  | case2 key value later ih =>
      rw [settled, ← ih]
      exact update_cons key value [] later

/-- No key and no value comes from elsewhere. -/
theorem exists_of_mem_settled {p : Value × Value} {pairs : Pairs} (h : p ∈ settled pairs) :
    (∃ v, (p.1, v) ∈ pairs) ∧ ∃ k, (k, p.2) ∈ pairs := by
  induction pairs using settled.induct with
  | case1 => simp [settled] at h
  | case2 key value later ih =>
      rw [settled] at h
      rcases List.mem_cons.mp h with rfl | h
      · refine ⟨⟨value, List.mem_cons_self⟩, ?_⟩
        unfold lastValue
        cases hlast : (later.filter fun p => key.same p.1).getLast? with
        | none => exact ⟨key, List.mem_cons_self⟩
        | some q =>
            have hq := List.mem_of_mem_filter (List.mem_of_getLast? hlast)
            exact ⟨q.1, List.mem_cons_of_mem _ hq⟩
      · obtain ⟨⟨v, hv⟩, k, hk⟩ := ih h
        exact ⟨⟨v, List.mem_cons_of_mem _ (List.mem_of_mem_filter hv)⟩,
          k, List.mem_cons_of_mem _ (List.mem_of_mem_filter hk)⟩

theorem hasDistinctKeys_settled (pairs : Pairs) : (settled pairs).HasDistinctKeys := by
  induction pairs using settled.induct with
  | case1 =>
      rw [settled]
      exact List.Pairwise.nil
  | case2 key value later ih =>
      rw [settled]
      refine List.Pairwise.cons ?_ ih
      intro k hk
      obtain ⟨p, hp, rfl⟩ := List.mem_map.mp hk
      obtain ⟨⟨v, hv⟩, -⟩ := exists_of_mem_settled hp
      simpa using (List.mem_filter.mp hv).2

/-- What is kept for keys that are not the given one is kept among the others. -/
theorem filter_others {key : Value} (keep : Value → Bool)
    (hkeep : ∀ l, key.same l = true → keep l = false) (pairs : Pairs) :
    (others key pairs).filter (fun p => keep p.1) = pairs.filter fun p => keep p.1 := by
  unfold others
  rw [List.filter_filter]
  refine List.filter_congr fun p _ => ?_
  cases hsame : key.same p.1 with
  | false => simp
  | true => simp [hkeep _ hsame]

theorem others_filter (key : Value) (keep : Value → Bool) (pairs : Pairs) :
    others key (pairs.filter fun p => keep p.1) = (others key pairs).filter fun p => keep p.1 := by
  unfold others
  rw [List.filter_filter, List.filter_filter]
  exact List.filter_congr fun p _ => Bool.and_comm _ _

theorem lastValue_filter {key : Value} {keep : Value → Bool}
    (hkeep : ∀ l, key.same l = true → keep l = true) (value : Value) (pairs : Pairs) :
    lastValue key value (pairs.filter fun p => keep p.1) = lastValue key value pairs := by
  have hfilter : (pairs.filter fun p => keep p.1).filter (fun p => key.same p.1) =
      pairs.filter fun p => key.same p.1 := by
    rw [List.filter_filter]
    refine List.filter_congr fun p _ => ?_
    cases hsame : key.same p.1 with
    | false => simp
    | true => simp [hkeep _ hsame]
  rw [lastValue, hfilter, lastValue]

/-- Keys that count as the same are kept together or dropped together. -/
theorem filter_settled (keep : Value → Bool) (hkeep : ∀ k l, k.same l = true → keep k = keep l)
    (pairs : Pairs) :
    (settled pairs).filter (fun p => keep p.1) = settled (pairs.filter fun p => keep p.1) := by
  induction pairs using settled.induct with
  | case1 => simp [settled]
  | case2 key value later ih =>
      rw [settled, List.filter_cons, List.filter_cons, ih]
      cases hkey : keep key with
      | false =>
          rw [filter_others keep fun l hsame => hkeep key l hsame ▸ hkey]
          rfl
      | true =>
          simp only [if_true]
          rw [settled, others_filter, lastValue_filter fun l hsame => hkeep key l hsame ▸ hkey]

theorem isWord_eq_same {key : Value} {word : String} (hkey : key.isWord word = true)
    (other : Value) : other.isWord word = key.same other := by
  rw [Bool.eq_iff_iff]
  constructor
  · intro hother
    exact Value.same_of_text? (beq_iff_eq.mp hkey) (beq_iff_eq.mp hother)
  · intro hsame
    rw [← Value.isWord_of_same hsame word, hkey]

/-- Under a word stands what is given to it last. -/
theorem lookup?_settled (word : String) (pairs : Pairs) :
    lookup? word (settled pairs) =
      (pairs.filter fun p => p.1.isWord word).getLast?.map (·.2) := by
  induction pairs using settled.induct with
  | case1 => simp [settled, lookup?]
  | case2 key value later ih =>
      rw [settled, lookup?, List.filter_cons]
      cases hkey : key.isWord word with
      | true =>
          simp only [if_true, List.getLast?_cons, Option.map_some, lastValue, isWord_eq_same hkey]
          cases (later.filter fun p => key.same p.1).getLast? <;> rfl
      | false =>
          have hother : ∀ l, key.same l = true → l.isWord word = false := by
            intro l hsame
            rw [← Value.isWord_of_same hsame word, hkey]
          rw [if_neg Bool.false_ne_true, if_neg Bool.false_ne_true, ih,
            filter_others (fun k => k.isWord word) hother]

end Pairs

/-! ### The attributes that a map declares -/

namespace Declaration

/-- What the entries of a map declare, each attribute once under the name by which it
is kept. -/
def declared (entries : Pairs) : Pairs :=
  Pairs.settled (entries.map fun e => (Keyword.attributeKey e.1, e.2))

theorem foldl_accept (entries : Pairs) (d : Declaration) :
    (entries.foldl accept d).attributes =
      Pairs.update d.attributes
        ((entries.map fun e => (Keyword.attributeKey e.1, e.2)).filter
          fun p => !p.1.isWord "name") := by
  induction entries generalizing d with
  | nil => rfl
  | cons e rest ih =>
      rw [List.foldl_cons, ih, accept, List.map_cons, List.filter_cons]
      cases hname : (Keyword.attributeKey e.1).isWord "name" with
      | true => simp
      | false => simp [Pairs.update]

/-- A map that is read as a declaration gives it what its entries declare, but for the
name. -/
theorem attributes_ofMapping (entries : Pairs) :
    (ofMapping entries).attributes =
      (declared entries).filter fun p => !p.1.isWord "name" := by
  have hname : ∀ k l : Value, k.same l = true → (!k.isWord "name") = !l.isWord "name" := by
    intro k l hsame
    rw [Value.isWord_of_same hsame]
  rw [ofMapping, foldl_accept, declared, Pairs.filter_settled (fun k => !k.isWord "name") hname,
    ← Pairs.ofList_eq_settled]
  rfl

/-- The parts of a declaration that come from a map leave out the name anyway. -/
theorem filter_setAttributes_ofMapping (keep : Value → Bool)
    (hkeep : ∀ k, keep k = true → k.isWord "name" = false) (entries : Pairs) :
    (ofMapping entries).setAttributes.filter (fun p => keep p.1) =
      (declared entries).filter fun p => p.2.isSet && keep p.1 := by
  rw [setAttributes, attributes_ofMapping, List.filter_filter, List.filter_filter]
  refine List.filter_congr fun p _ => ?_
  cases hp : keep p.1 with
  | false => simp
  | true => simp [hkeep _ hp]

theorem options_ofMapping (entries : Pairs) :
    (ofMapping entries).options =
      (declared entries).filter fun p => p.2.isSet && p.1.isAmong Keyword.options := by
  refine filter_setAttributes_ofMapping (Value.isAmong Keyword.options) (fun k hk => ?_) entries
  obtain ⟨word, hword, htext⟩ := (Value.isAmong_iff _ _).mp hk
  refine Value.not_isWord_of_isWord (beq_iff_eq.mpr htext) ?_
  rintro rfl
  revert hword
  decide

theorem passthrough_ofMapping (entries : Pairs) :
    (ofMapping entries).passthrough =
      (declared entries).filter fun p => p.2.isSet && !p.1.isAmong Keyword.recognized := by
  refine filter_setAttributes_ofMapping (fun k => !k.isAmong Keyword.recognized)
    (fun k hk => ?_) entries
  rw [Bool.not_eq_true'] at hk
  rw [← Bool.not_eq_true]
  intro hname
  rw [Value.isAmong, beq_iff_eq.mp hname] at hk
  revert hk
  decide

end Declaration

/-! ### Options by their words -/

namespace Keyword

theorem mem_recognized_of_mem_options {word : String} (h : word ∈ options) : word ∈ recognized :=
  List.mem_append_right _ h

/-- The words of the two word types are no options. -/
theorem eq_str_of_text? {v : Value} {word : String} (hword : word ∈ options)
    (h : v.text? = some word) : v = .str word := by
  cases v with
  | str s => exact congrArg Value.str (Option.some.inj h)
  | entryType t =>
      obtain rfl : t.word = word := Option.some.inj h
      cases t <;> exact absurd hword (by decide)
  | phase p =>
      obtain rfl : p.word = word := Option.some.inj h
      cases p <;> exact absurd hword (by decide)
  | _ => cases h

/-- What is kept under an option is what spells it. -/
theorem isWord_attributeKey {key : Value} {word : String} (hword : word ∈ options) :
    (attributeKey key).isWord word = (spelled key == word) :=
  isWord_attributeKey_of_text (mem_recognized_of_mem_options hword) (eq_str_of_text? hword)

end Keyword

namespace Declaration

theorem lookup?_declared {word : String} (hword : word ∈ Keyword.options) (entries : Pairs) :
    Pairs.lookup? word (declared entries) =
      (entries.filter fun e => Keyword.spelled e.1 == word).getLast?.map (·.2) := by
  have hspelled : ((fun p : Value × Value => p.1.isWord word) ∘
      fun e : Value × Value => (Keyword.attributeKey e.1, e.2)) =
        fun e => Keyword.spelled e.1 == word :=
    funext fun e => Keyword.isWord_attributeKey hword
  rw [declared, Pairs.lookup?_settled, List.filter_map, hspelled, List.getLast?_map,
    Option.map_map]
  rfl

theorem mem_declared_iff {word : String} (hword : word ∈ Keyword.options) (entries : Pairs)
    (v : Value) :
    (.str word, v) ∈ declared entries ↔
      (entries.filter fun e => Keyword.spelled e.1 == word).getLast?.map (·.2) = some v := by
  have hdistinct : (declared entries).HasDistinctKeys := Pairs.hasDistinctKeys_settled _
  rw [← lookup?_declared hword, Pairs.lookup?_eq_some_iff hdistinct]
  constructor
  · intro h
    exact ⟨_, h, beq_iff_eq.mpr rfl⟩
  · rintro ⟨k, hk, hkword⟩
    rw [← Keyword.eq_str_of_text? hword (beq_iff_eq.mp hkword)]
    exact hk

/-- An option and an attribute that is no keyword never have the same name. -/
theorem hasDistinctKeys_options_append_passthrough {d : Declaration}
    (h : d.attributes.HasDistinctKeys) : (d.options ++ d.passthrough).HasDistinctKeys := by
  have hfilter : ∀ keep, Pairs.HasDistinctKeys (d.setAttributes.filter keep) := by
    intro keep
    have hset : d.setAttributes.Sublist d.attributes := List.filter_sublist
    have hsublist : (d.setAttributes.filter keep).Sublist d.attributes :=
      List.filter_sublist.trans hset
    exact List.Pairwise.sublist (hsublist.map _) h
  unfold Pairs.HasDistinctKeys Pairs.keys
  rw [List.map_append, List.pairwise_append]
  refine ⟨hfilter _, hfilter _, ?_⟩
  intro k hk l hl
  obtain ⟨p, hp, rfl⟩ := List.mem_map.mp hk
  obtain ⟨q, hq, rfl⟩ := List.mem_map.mp hl
  have hoption : p.1.isAmong Keyword.options = true := (List.mem_filter.mp hp).2
  have hforeign : (!q.1.isAmong Keyword.recognized) = true := (List.mem_filter.mp hq).2
  rw [← Bool.not_eq_true]
  intro hsame
  obtain ⟨word, hword, htext⟩ := (Value.isAmong_iff _ _).mp hoption
  have hrecognized := (Value.isAmong_iff _ q.1).mpr
    ⟨word, Keyword.mem_recognized_of_mem_options hword, Value.text?_of_same hsame ▸ htext⟩
  simp [hrecognized] at hforeign

theorem mem_options_of_isWord {d : Declaration} {p : Value × Value}
    (hp : p ∈ d.options ++ d.passthrough) {word : String} (hword : word ∈ Keyword.recognized)
    (h : p.1.isWord word = true) : word ∈ Keyword.options := by
  have htext : p.1.text? = some word := beq_iff_eq.mp h
  rcases List.mem_append.mp hp with hp | hp
  · obtain ⟨other, hother, hsome⟩ := (Value.isAmong_iff _ _).mp (List.mem_filter.mp hp).2
    rw [htext] at hsome
    exact Option.some.inj hsome ▸ hother
  · have hrecognized := (Value.isAmong_iff Keyword.recognized p.1).mpr ⟨word, hword, htext⟩
    have hforeign := (List.mem_filter.mp hp).2
    simp [hrecognized] at hforeign

theorem passthrough_eq_filter_of_distinct {entries : Pairs} (h : entries.HasDistinctKeys) :
    (ofMapping entries).passthrough =
      entries.filter fun e => e.2.isSet && !Keyword.isRecognized e.1 := by
  have hunrecognized := unrecognized_ofMapping (List.pairwise_map.mp h)
  rw [passthrough, setAttributes, List.filter_filter, List.filter_congr fun p _ => Bool.and_comm _ _,
    ← List.filter_filter, hunrecognized, List.filter_filter]

end Declaration

/-! ### Leaves -/

/-- What a leaf shows of the entries of a map: the options among what they declare and
then the attributes that are no keywords, each once, and no other keyword.  Of the
spellings of an option the last one counts; an attribute that is no keyword is shown
as it is. -/
structure Leaf.Shows (entries : Pairs) (l : Leaf) : Prop where
  record : l.record = .str l.key :: l.name :: (l.typeWord.toList ++ l.targetRecord.toList ++
    l.templateRecord.toList ++ (l.options ++ l.passthrough).spread)
  options : l.options = (Declaration.declared entries).filter fun p =>
    p.2.isSet && p.1.isAmong Keyword.options
  passthrough : l.passthrough = (Declaration.declared entries).filter fun p =>
    p.2.isSet && !p.1.isAmong Keyword.recognized
  distinct : (l.options ++ l.passthrough).HasDistinctKeys
  keywords : ∀ p ∈ l.options ++ l.passthrough, ∀ word ∈ Keyword.recognized,
    p.1.isWord word = true → word ∈ Keyword.options
  latest : ∀ word ∈ Keyword.options, ∀ v, (.str word, v) ∈ l.options ↔
    v.isSet = true ∧
      (entries.filter fun e => Keyword.spelled e.1 == word).getLast?.map (·.2) = some v
  unchanged : entries.HasDistinctKeys →
    l.passthrough = entries.filter fun e => e.2.isSet && !Keyword.isRecognized e.1

namespace Compile

variable {plan : Plan} {d : Declaration} {ancestors : List Declaration}

/-- A valid leaf compiles unless its type is no entry type. -/
theorem tree_of_valid_leaf (hvalid : d.validate ancestors = .ok ())
    (hleaf : d.hasChildren = false) :
    (∃ f, d.entryType plan.defaultType ancestors = .error f ∧
      tree plan ancestors d.outline = .error f) ∨
    ∃ type template, d.entryType plan.defaultType ancestors = .ok type ∧
      d.template = .ok template ∧
      tree plan ancestors d.outline =
        .ok ⟨.leaf ⟨fullKey ancestors d, d.name, type, d.target, template, d.options,
          d.passthrough⟩, d.hooks (fullKey ancestors d)⟩ := by
  obtain ⟨template, htemplate⟩ :=
    Declaration.exists_template (Declaration.hasSoundTexts_of_validate hvalid hleaf)
  rw [tree_of_not_hasChildren hleaf, hvalid]
  simp only [leaf, Declaration.leaf, htemplate]
  cases htype : d.entryType plan.defaultType ancestors with
  | error f => exact .inl ⟨f, rfl, rfl⟩
  | ok type => exact .inr ⟨type, template, rfl, rfl, rfl⟩

/-- A map that is a valid leaf fails only because of its type, or it compiles to a leaf
that shows its options and then what it hands through: all that is set of them, each
attribute where it is declared first and as it is declared last. -/
theorem leaf_shows_map {entries : Pairs}
    (hvalid : (Declaration.ofMapping entries).validate ancestors = .ok ())
    (hleaf : (Declaration.ofMapping entries).hasChildren = false) :
    (∃ f, (Declaration.ofMapping entries).entryType plan.defaultType ancestors = .error f ∧
      tree plan ancestors (Declaration.ofMapping entries).outline = .error f) ∨
    ∃ l hooks, tree plan ancestors (Declaration.ofMapping entries).outline = .ok ⟨.leaf l, hooks⟩ ∧
      l.Shows entries := by
  refine (tree_of_valid_leaf hvalid hleaf).imp_right ?_
  rintro ⟨type, template, -, -, htree⟩
  refine ⟨_, _, htree, ?_⟩
  have hdistinct := Declaration.hasDistinctKeys_ofMapping entries
  exact {
    record := by
      rw [Leaf.record_eq]
      simp [Leaf.body, Leaf.shown]
    options := Declaration.options_ofMapping entries
    passthrough := Declaration.passthrough_ofMapping entries
    distinct := Declaration.hasDistinctKeys_options_append_passthrough hdistinct
    keywords := fun p hp word hword h => Declaration.mem_options_of_isWord hp hword h
    latest := by
      intro word hword v
      have hoption : (Value.str word).isAmong Keyword.options = true :=
        List.contains_iff_mem.mpr hword
      rw [Declaration.options_ofMapping, List.mem_filter, Declaration.mem_declared_iff hword,
        hoption, Bool.and_true, and_comm]
    unchanged := Declaration.passthrough_eq_filter_of_distinct }

/-- `prepend` stays in front although its last spelling comes late; an option that is
zero is set, and one that is false in the end is not shown.  Neither `x_y` nor `x-y`
is a keyword. -/
theorem leaf_shows_map_of_spellings :
    let entries : Pairs := [(.str "name", .str "Note"), (.str ":prepend", .bool true),
      (.str "x_y", .int 1), (.str "keys", .str "n"), (.str "kill_buffer", .int 0),
      (.str "no_save", .bool true), (.str "file", .str "n.org"), (.str "prepend", .str "last"),
      (.str "x-y", .list []), (.str "z", .none), (.str "no-save", .bool false)]
    ∃ l hooks, tree {} [] (Declaration.ofMapping entries).outline = .ok ⟨.leaf l, hooks⟩ ∧
      l.options = [(.str "prepend", .str "last"), (.str "kill-buffer", .int 0)] ∧
      l.passthrough = [(.str "x_y", .int 1), (.str "x-y", .list [])] ∧ l.Shows entries := by
  intro entries
  have htree : tree {} [] (Declaration.ofMapping entries).outline = .ok ⟨.leaf {
      key := "n", name := .str "Note", type := some .entry
      target := some (.file (.str "n.org") none .none .none)
      options := [(.str "prepend", .str "last"), (.str "kill-buffer", .int 0)]
      passthrough := [(.str "x_y", .int 1), (.str "x-y", .list [])] }, []⟩ := rfl
  rcases @leaf_shows_map {} [] entries rfl rfl with ⟨f, -, hfails⟩ | ⟨l, hooks, hl, hshows⟩
  · rw [htree] at hfails
    cases hfails
  · obtain ⟨⟨⟩, -⟩ := Compiled.mk.inj (Except.ok.inj (htree.symm.trans hl))
    exact ⟨_, _, htree, rfl, rfl, hshows⟩

end Compile

end CaptureForest
