import CaptureForest.Proofs.Naming
import CaptureForest.Proofs.SetAttributes

/-!
# Attributes in any order

What bears on a leaf is what is set in it, apart from its name and the value of
`children`.  The names of attributes are distinct, so each part of a leaf that is
read under a word finds the same value in whatever order the attributes stand.  Two
leaves with the same bearing attributes fail alike or resolve alike; only the
options and the attributes that are handed through keep the declared order.
-/

namespace CaptureForest

namespace Value

theorem same_of_text? {a b : Value} {word : String} (ha : a.text? = some word)
    (hb : b.text? = some word) : a.same b = true := by
  have hnumber : ∀ v : Value, v.text? = some word → v.number? = Option.none := by
    intro v hv
    cases v <;> simp_all [text?, number?]
  have hscalar : scalarSame a b = true := by
    unfold scalarSame
    simp [hnumber a ha, hnumber b hb, ha, hb]
  cases a with
  | str _ | entryType _ | phase _ => rw [same] <;> simp [hscalar]
  | _ => cases ha

end Value

namespace Pairs

/-- No two keys count as the same. -/
def HasDistinctKeys (pairs : Pairs) : Prop := (keys pairs).Pairwise fun k l => k.same l = false

theorem keys_insert (key value : Value) (pairs : Pairs) :
    keys (insert key value pairs) =
      if (keys pairs).any (·.same key) then keys pairs else keys pairs ++ [key] := by
  induction pairs with
  | nil => rfl
  | cons pair rest ih =>
      obtain ⟨k, v⟩ := pair
      have hcons : keys ((k, v) :: rest) = k :: keys rest := rfl
      rw [insert, hcons, List.any_cons]
      cases hk : k.same key with
      | true => simp [keys]
      | false =>
          have hinsert : keys ((k, v) :: insert key value rest) =
              k :: keys (insert key value rest) := rfl
          rw [if_neg Bool.false_ne_true, hinsert, ih, Bool.false_or, List.cons_append]
          split <;> rfl

theorem hasDistinctKeys_insert {pairs : Pairs} (h : pairs.HasDistinctKeys) (key value : Value) :
    (insert key value pairs).HasDistinctKeys := by
  rw [HasDistinctKeys, keys_insert]
  split
  · exact h
  · rename_i hnew
    rw [List.any_eq_true, not_exists] at hnew
    refine List.pairwise_append.mpr ⟨h, List.pairwise_singleton _ _, ?_⟩
    intro k hk l hl
    rw [List.mem_singleton.mp hl]
    exact Bool.not_eq_true _ ▸ fun hsame => hnew k ⟨hk, hsame⟩

theorem lookup?_eq_some_iff {pairs : Pairs} (h : pairs.HasDistinctKeys) (word : String)
    (v : Value) :
    lookup? word pairs = some v ↔ ∃ k, (k, v) ∈ pairs ∧ k.isWord word = true := by
  induction pairs with
  | nil => simp [lookup?]
  | cons pair rest ih =>
      obtain ⟨k, u⟩ := pair
      obtain ⟨hfirst, hrest⟩ := List.pairwise_cons.mp h
      rw [lookup?]
      by_cases hk : k.isWord word = true
      -- a later pair under the word would have the same key
      · have hlater : ∀ l, (l, v) ∈ rest → ¬ l.isWord word = true := by
          intro l hl hword
          have hsame := Value.same_of_text? (beq_iff_eq.mp hk) (beq_iff_eq.mp hword)
          have hdistinct := hfirst l (List.mem_map_of_mem hl)
          rw [hsame] at hdistinct
          cases hdistinct
        rw [if_pos hk, Option.some.injEq]
        constructor
        · rintro rfl
          exact ⟨k, List.mem_cons_self, hk⟩
        · rintro ⟨l, hmem, hword⟩
          rcases List.mem_cons.mp hmem with heq | hl
          · exact (Prod.mk.inj heq).2.symm
          · exact absurd hword (hlater l hl)
      · rw [if_neg hk, ih hrest]
        constructor
        · rintro ⟨l, hl, hword⟩
          exact ⟨l, List.mem_cons_of_mem _ hl, hword⟩
        · rintro ⟨l, hmem, hword⟩
          rcases List.mem_cons.mp hmem with heq | hl
          · obtain ⟨rfl, -⟩ := Prod.mk.inj heq
            exact absurd hword hk
          · exact ⟨l, hl, hword⟩

end Pairs

namespace Declaration

/-- The attributes that bear on a leaf: all that are set, but for `children`. -/
def bearing (d : Declaration) : Pairs :=
  d.setAttributes.filter fun pair => !pair.1.isWord "children"

variable {d d' : Declaration}

/-- What is read from a map has distinct names. -/
theorem hasDistinctKeys_ofMapping (entries : Pairs) :
    (ofMapping entries).attributes.HasDistinctKeys := by
  induction entries using List.reverseRecOn with
  | nil => exact List.Pairwise.nil
  | append_singleton entries entry ih =>
      rw [ofMapping_concat, accept]
      split
      · exact ih
      · exact Pairs.hasDistinctKeys_insert ih _ _

theorem mem_bearing_iff (d : Declaration) (pair : Value × Value) :
    pair ∈ d.bearing ↔
      pair ∈ d.attributes ∧ pair.2.isSet = true ∧ pair.1.isWord "children" = false := by
  simp only [bearing, setAttributes, List.mem_filter, Bool.not_eq_true', and_assoc]

theorem setting?_eq_some_iff (h : d.attributes.HasDistinctKeys) {word : String}
    (hword : word ≠ "children") (v : Value) :
    d.setting? word = some v ↔ ∃ k, (k, v) ∈ d.bearing ∧ k.isWord word = true := by
  have hsetting : d.setting? word = (Pairs.lookup? word d.attributes).filter Value.isSet := by
    unfold setting? sets get Pairs.get
    cases Pairs.lookup? word d.attributes with
    | none => rfl
    | some v => cases hv : v.isSet <;> simp [Value.ofOption, Option.filter, hv]
  rw [hsetting, Option.filter_eq_some_iff, Pairs.lookup?_eq_some_iff h]
  constructor
  · rintro ⟨⟨k, hk, hkword⟩, hset⟩
    have hchildren : k.isWord "children" = false := Value.not_isWord_of_isWord hkword hword
    exact ⟨k, (d.mem_bearing_iff _).mpr ⟨hk, hset, hchildren⟩, hkword⟩
  · rintro ⟨k, hk, hkword⟩
    obtain ⟨hk, hset, -⟩ := (d.mem_bearing_iff _).mp hk
    exact ⟨⟨k, hk, hkword⟩, hset⟩

theorem agreeOn_of_bearing_perm (h : d.attributes.HasDistinctKeys)
    (h' : d'.attributes.HasDistinctKeys) (hbearing : d.bearing.Perm d'.bearing)
    {words : List String} (hwords : "children" ∉ words) : AgreeOn words d d' := by
  intro word hword
  have hne : word ≠ "children" := by
    rintro rfl
    exact hwords hword
  refine Option.ext fun v => ?_
  rw [setting?_eq_some_iff h hne, setting?_eq_some_iff h' hne]
  exact exists_congr fun k => and_congr_left' hbearing.mem_iff

/-! ### Options and attributes that are handed through -/

theorem options_eq (d : Declaration) :
    d.options = d.bearing.filter fun pair => pair.1.isAmong Keyword.options := by
  rw [options, bearing, List.filter_filter]
  refine List.filter_congr fun pair _ => ?_
  cases hchildren : pair.1.isWord "children" with
  | false => simp
  | true =>
      have hoption : pair.1.isAmong Keyword.options = false := by
        rw [Value.isAmong, beq_iff_eq.mp hchildren]
        decide
      simp [hoption]

theorem passthrough_eq (d : Declaration) :
    d.passthrough = d.bearing.filter fun pair => !pair.1.isAmong Keyword.recognized := by
  rw [passthrough, bearing, List.filter_filter]
  refine List.filter_congr fun pair _ => ?_
  cases hchildren : pair.1.isWord "children" with
  | false => simp
  | true =>
      have hrecognized : pair.1.isAmong Keyword.recognized = true := by
        rw [Value.isAmong, beq_iff_eq.mp hchildren]
        decide
      simp [hrecognized]

end Declaration

/-! ### Leaves that resolve alike -/

/-- Two leaves that differ at most in the order of their options and of what is
handed through. -/
structure Leaf.SameUpToOrder (l l' : Leaf) : Prop where
  key : l.key = l'.key
  name : l.name = l'.name
  type : l.type = l'.type
  target : l.target = l'.target
  template : l.template = l'.template
  options : l.options.Perm l'.options
  passthrough : l.passthrough.Perm l'.passthrough

namespace Compile

/-- Both compilations fail with one fault, or they give leaves that differ at most in
the order of their attributes, with the same hooks. -/
inductive AgreeUpToOrder : Except Fault Compiled → Except Fault Compiled → Prop where
  | failed (f : Fault) : AgreeUpToOrder (.error f) (.error f)
  | compiled {l l' : Leaf} (h : l.SameUpToOrder l') (hooks : List HookRegistration) :
      AgreeUpToOrder (.ok ⟨.leaf l, hooks⟩) (.ok ⟨.leaf l', hooks⟩)

end Compile

namespace Declaration

/-- Two leaves with one name and the same bearing attributes, in any order.  Neither is
bare, or both are. -/
structure BearAlike (d d' : Declaration) : Prop where
  name : d.name = d'.name
  leaf : d.hasChildren = false
  leaf' : d'.hasChildren = false
  bare : d.isBare = d'.isBare
  distinct : d.attributes.HasDistinctKeys
  distinct' : d'.attributes.HasDistinctKeys
  bearing : d.bearing.Perm d'.bearing

namespace BearAlike

variable {d d' : Declaration} (h : BearAlike d d')

include h

theorem agreeOn {words : List String} (hwords : "children" ∉ words) : AgreeOn words d d' :=
  agreeOn_of_bearing_perm h.distinct h.distinct' h.bearing hwords

theorem keys? : d.keys? = d'.keys? := (h.agreeOn (by decide)).keys?

theorem validate (ancestors : List Declaration) :
    d.validate ancestors = d'.validate ancestors := by
  have hcheck : d.checkLeaf = d'.checkLeaf := (h.agreeOn (by decide)).checkLeaf h.name
  rw [validate_of_not_hasChildren h.leaf, validate_of_not_hasChildren h.leaf', h.keys?,
    path_congr h.name, h.name, hcheck]

theorem hooks (key : String) : d.hooks key = d'.hooks key :=
  (h.agreeOn (by decide)).hooks h.name key

theorem compileLeaf (plan : Plan) (ancestors : List Declaration) :
    Compile.AgreeUpToOrder (Compile.leaf plan ancestors d) (Compile.leaf plan ancestors d') ∧
      (d.bearing = d'.bearing →
        Compile.leaf plan ancestors d = Compile.leaf plan ancestors d') := by
  have htype := (h.agreeOn (by decide)).entryType h.name (h.leaf.trans h.leaf'.symm) h.bare
    plan.defaultType ancestors
  have htarget : d.target = d'.target := (h.agreeOn (by decide)).target
  have htemplate : d.template = d'.template := (h.agreeOn (by decide)).template
  have hoptions : d.options.Perm d'.options := by
    rw [options_eq, options_eq]
    exact h.bearing.filter _
  have hpassthrough : d.passthrough.Perm d'.passthrough := by
    rw [passthrough_eq, passthrough_eq]
    exact h.bearing.filter _
  simp only [Compile.leaf, Declaration.leaf, htype, htemplate, htarget, h.name,
    Compile.fullKey_congr h.keys?, h.hooks]
  cases d'.entryType plan.defaultType ancestors with
  | error e => exact ⟨.failed e, fun _ => rfl⟩
  | ok type =>
      cases d'.template with
      | error e => exact ⟨.failed e, fun _ => rfl⟩
      | ok template =>
          constructor
          · refine Compile.AgreeUpToOrder.compiled ?_ _
            exact ⟨rfl, rfl, rfl, rfl, rfl, hoptions, hpassthrough⟩
          · intro hbearing
            rw [options_eq, options_eq, passthrough_eq, passthrough_eq, hbearing]

end BearAlike

/-- Two declarations without children that have one name, are not bare, and have the
same bearing attributes both fail alike, or both resolve alike: only the options and
what is handed through may come in another order, and they do not if the bearing
attributes come in one order. -/
theorem compile_alike (h : BearAlike d d') (plan : Plan) (ancestors : List Declaration) :
    Compile.AgreeUpToOrder (Compile.tree plan ancestors d.outline)
        (Compile.tree plan ancestors d'.outline) ∧
      (d.bearing = d'.bearing →
        Compile.tree plan ancestors d.outline = Compile.tree plan ancestors d'.outline) := by
  rw [Compile.tree_of_not_hasChildren h.leaf, Compile.tree_of_not_hasChildren h.leaf',
    h.validate ancestors]
  cases d'.validate ancestors with
  | error e => exact ⟨.failed e, fun _ => rfl⟩
  | ok _ => exact h.compileLeaf plan ancestors

/-- An option that is zero and a file without a name are set; what is none or false is
not, and may be left out. -/
theorem compile_alike_of_empty_values :
    let d : Declaration := ⟨.str "A", [(.str "keys", .str "a"), (.str "prepend", .int 0),
      (.str "clock", .bool false), (.str "file", .str "")]⟩
    let d' : Declaration := ⟨.str "A", [(.str "id", .none), (.str "keys", .str "a"),
      (.str "file", .str ""), (.str "prepend", .int 0)]⟩
    (∃ c, Compile.tree {} [] d.outline = .ok c) ∧
      Compile.AgreeUpToOrder (Compile.tree {} [] d.outline) (Compile.tree {} [] d'.outline) := by
  intro d d'
  have halike : BearAlike d d' := {
    name := rfl
    leaf := rfl
    leaf' := rfl
    bare := rfl
    distinct := by
      unfold Pairs.HasDistinctKeys
      decide +kernel
    distinct' := by
      unfold Pairs.HasDistinctKeys
      decide +kernel
    bearing := .cons _ (.swap _ _ _) }
  exact ⟨⟨_, rfl⟩, (compile_alike halike {} []).1⟩

end Declaration

end CaptureForest
