import CaptureForest.Proofs.Partition

/-!
# Records and descriptions of entries

An entry is rendered twice: as the record of the capture engine, a list in which
nothing marks the fields, and as the description for structured output, a map of
fields.  The two carry the same.  Each field of the description shows what one part
of the record comes to, a part that is missing has no field, and the parts follow one
another as the fields do.

The attributes of an entry become maps in its description.  As their names are texts
that differ from each other, none of them takes the place of another there.
-/

namespace CaptureForest

/-! ### Descriptions of pairs -/

namespace Value

theorem describeItems_eq_map (items : List Value) : describeItems items = items.map describe := by
  induction items with
  | nil => rfl
  | cons item rest ih => rw [describeItems, ih, List.map_cons]

theorem describeItems_toList (o : Option Value) :
    describeItems o.toList = (o.map describe).toList := by
  cases o <;> rfl

/-- Texts are described by themselves. -/
theorem describe_of_isText {v : Value} (h : v.isText = true) : v.describe = v := by
  cases v with
  | str _ | entryType _ | phase _ => rfl
  | _ => cases h

end Value

namespace Pairs

theorem settled_of_hasDistinctKeys {pairs : Pairs} (h : pairs.HasDistinctKeys) :
    settled pairs = pairs := by
  induction pairs with
  | nil => rw [settled]
  | cons p rest ih =>
      obtain ⟨key, value⟩ := p
      obtain ⟨hkey, hrest⟩ := List.pairwise_cons.mp h
      have hother : ∀ q ∈ rest, key.same q.1 = false :=
        fun q hq => hkey q.1 (List.mem_map_of_mem hq)
      have hkept : others key rest = rest :=
        List.filter_eq_self.mpr fun q hq => by simp [hother q hq]
      have hnone : (rest.filter fun q => key.same q.1) = [] :=
        List.filter_eq_nil_iff.mpr fun q hq => by simp [hother q hq]
      rw [settled, hkept, ih hrest, lastValue, hnone]
      rfl

/-- No pair is lost where all keys differ. -/
theorem described_of_hasDistinctKeys {pairs : Pairs} (h : pairs.HasDistinctKeys) :
    pairs.described = .map (pairs.map fun p => (p.1, p.2.describe)) := by
  have hkeys : Pairs.HasDistinctKeys (pairs.map fun p => (p.1, p.2.describe)) := by
    unfold HasDistinctKeys keys at h ⊢
    rw [List.map_map]
    exact h
  rw [described, ofList_eq_settled, settled_of_hasDistinctKeys hkeys]

theorem describeItems_spread {pairs : Pairs} (h : ∀ p ∈ pairs, p.1.isText = true) :
    Value.describeItems pairs.spread = spread (pairs.map fun p => (p.1, p.2.describe)) := by
  induction pairs with
  | nil => rfl
  | cons p rest ih =>
      rw [spread_cons, Value.describeItems, Value.describeItems,
        Value.describe_of_isText (h p List.mem_cons_self),
        ih fun q hq => h q (List.mem_cons_of_mem p hq)]
      rfl

theorem lookup?_append (word : String) (ps qs : Pairs) :
    lookup? word (ps ++ qs) = (lookup? word ps).or (lookup? word qs) := by
  induction ps with
  | nil => rfl
  | cons p rest ih =>
      rw [List.cons_append, lookup?, lookup?, ih]
      split <;> rfl

theorem lookup?_field (word name : String) (value : Option Value) :
    lookup? word (fields (Leaf.field name value)) = if name = word then value else none := by
  cases value <;> simp [Leaf.field, fields, lookup?, Value.isWord, Value.text?]

theorem lookup?_flatMap_field (word : String) (names : List String)
    (value : String → Option Value) :
    lookup? word (fields (names.flatMap fun name => Leaf.field name (value name))) =
      if word ∈ names then value word else none := by
  induction names with
  | nil => rfl
  | cons name rest ih =>
      rw [List.flatMap_cons, fields, List.map_append, ← fields, ← fields, lookup?_append,
        lookup?_field, ih]
      by_cases hname : name = word
      · subst hname
        cases value name <;> simp
      · simp [hname, Ne.symm hname]

theorem hasDistinctKeys_append {ps qs : Pairs} (h : Pairs.HasDistinctKeys (ps ++ qs)) :
    ps.HasDistinctKeys ∧ qs.HasDistinctKeys := by
  unfold HasDistinctKeys keys at h
  rw [List.map_append, List.pairwise_append] at h
  exact ⟨h.1, h.2.1⟩

end Pairs

/-! ### Fields -/

namespace Value

/-- What a map has under a field. -/
def under (field : String) : Value → Option Value
  | .map pairs => Pairs.lookup? field pairs
  | _ => Option.none

/-- What stands for a field in a record: a value by itself, or the pairs of a map of
attributes one after another. -/
def unfolded (field : String) (v : Value) : List Value :=
  if field ∈ ["options", "passthrough"] then
    match v with
    | .map pairs => Pairs.spread pairs
    | _ => [v]
  else [v]

/-- What a description shows under a field. -/
def shownUnder (field : String) (v : Value) : List Value :=
  (v.under field).toList.flatMap (unfolded field)

end Value

namespace Entry

/-- The fields of descriptions, in the order of their parts in a record.  The mark of
groups is not among them. -/
def fields : List String :=
  ["keys", "name", "type", "target", "template", "options", "passthrough"]

/-- The part of a record that belongs to a field. -/
def part (field : String) : Entry → List Value
  | .group key name =>
    match field with
    | "keys" => [.str key]
    | "name" => [name]
    | _ => []
  | .leaf l =>
    match field with
    | "keys" => [.str l.key]
    | "name" => [l.name]
    | "type" => l.typeWord.toList
    | "target" => l.targetRecord.toList
    | "template" => l.templateRecord.toList
    | "options" => l.options.spread
    | "passthrough" => l.passthrough.spread
    | _ => []

/-- What the description of an entry has under a field. -/
def described (field : String) : Entry → Option Value
  | .group key name =>
    match field with
    | "keys" => some (.str key)
    | "name" => some name.describe
    | "group" => some (.bool true)
    | _ => none
  | .leaf l =>
    match field with
    | "keys" => some (.str l.key)
    | "name" => some l.name.describe
    | "type" => l.typeWord
    | "target" => l.targetRecord.map Value.describe
    | "template" => l.templateRecord.map Value.describe
    | "options" => Leaf.describedPairs l.options
    | "passthrough" => Leaf.describedPairs l.passthrough
    | _ => none

/-- A description as a list: what it shows under its fields, one after another. -/
def flattened (description : Value) : List Value :=
  fields.flatMap description.shownUnder

/-- The description of an entry carries what its record carries, in the whole and part
by part. -/
structure RendersAlike (e : Entry) : Prop where
  flattened : (Value.list e.record).describe = .list (flattened e.description)
  record : e.record = fields.flatMap e.part
  shown : ∀ field ∈ fields, Value.describeItems (e.part field) = e.description.shownUnder field
  present : ∀ field ∈ fields, (e.description.under field).isSome = true ↔ e.part field ≠ []

theorem record_eq_flatMap_part (e : Entry) : e.record = fields.flatMap e.part := by
  cases e with
  | group key name => rfl
  | leaf l =>
      rw [record, Leaf.record_eq]
      simp [fields, part, Leaf.body, Leaf.shown, Pairs.spread]

theorem description_eq_record (e : Entry) :
    e.description =
      .record ((fields ++ ["group"]).flatMap fun field => Leaf.field field (e.described field)) := by
  cases e with
  | group key name => rfl
  | leaf l =>
      simp [description, Leaf.description, fields, described, Leaf.field, Leaf.typeWord,
        Leaf.targetRecord, Leaf.templateRecord, Function.comp_def]

theorem under_description (e : Entry) {field : String} (h : field ∈ fields) :
    e.description.under field = e.described field := by
  rw [description_eq_record, Value.record, Value.under, Pairs.lookup?_flatMap_field,
    if_pos (List.mem_append_left _ h)]

/-- An entry whose attributes have texts for names, each one once. -/
def HasAttributeNames : Entry → Prop
  | .group .. => True
  | .leaf l => (∀ p ∈ l.shown, p.1.isText = true) ∧ l.shown.HasDistinctKeys

end Entry

namespace Leaf

theorem shownUnder_of_pairs {field : String} (hfield : field ∈ ["options", "passthrough"])
    {pairs : Pairs} (hnames : ∀ p ∈ pairs, p.1.isText = true) (hdistinct : pairs.HasDistinctKeys) :
    Value.describeItems pairs.spread =
      (describedPairs pairs).toList.flatMap (Value.unfolded field) := by
  rw [Pairs.describeItems_spread hnames]
  cases pairs with
  | nil => rfl
  | cons p rest =>
      simp [describedPairs, Pairs.described_of_hasDistinctKeys hdistinct, Value.unfolded, hfield]

theorem shownUnder_of_option {field : String} (hfield : field ∉ ["options", "passthrough"])
    (o : Option Value) :
    Value.describeItems o.toList = (o.map Value.describe).toList.flatMap (Value.unfolded field) := by
  rw [Value.describeItems_toList]
  cases o with
  | none => rfl
  | some v =>
      simp only [Option.map_some, Option.toList_some, List.flatMap_singleton, Value.unfolded]
      rw [if_neg hfield]

end Leaf

namespace Entry

theorem mem_fields_iff (field : String) :
    field ∈ fields ↔ field = "keys" ∨ field = "name" ∨ field = "type" ∨ field = "target" ∨
      field = "template" ∨ field = "options" ∨ field = "passthrough" := by
  simp [fields]

theorem describeItems_part {e : Entry} (h : e.HasAttributeNames) {field : String}
    (hfield : field ∈ fields) :
    Value.describeItems (e.part field) = e.description.shownUnder field := by
  rw [Value.shownUnder, under_description e hfield]
  rw [mem_fields_iff] at hfield
  cases e with
  | group key name => rcases hfield with rfl | rfl | rfl | rfl | rfl | rfl | rfl <;> rfl
  | leaf l =>
      -- the names matter only where pairs become a map, in the last two fields
      obtain ⟨hnames, hdistinct⟩ := h
      obtain ⟨hoptions, hpassthrough⟩ := List.forall_mem_append.mp hnames
      obtain ⟨hdistinctOptions, hdistinctPassthrough⟩ := Pairs.hasDistinctKeys_append hdistinct
      have htype : l.typeWord.map Value.describe = l.typeWord := by
        unfold Leaf.typeWord
        cases l.type <;> rfl
      rcases hfield with rfl | rfl | rfl | rfl | rfl | rfl | rfl
      · rfl
      · rfl
      · have hword := Leaf.shownUnder_of_option (by decide : "type" ∉ ["options", "passthrough"])
          l.typeWord
        rw [htype] at hword
        exact hword
      · exact Leaf.shownUnder_of_option (by decide) l.targetRecord
      · exact Leaf.shownUnder_of_option (by decide) l.templateRecord
      · exact Leaf.shownUnder_of_pairs (by decide) hoptions hdistinctOptions
      · exact Leaf.shownUnder_of_pairs (by decide) hpassthrough hdistinctPassthrough

theorem isSome_under_iff (e : Entry) {field : String} (hfield : field ∈ fields) :
    (e.description.under field).isSome = true ↔ e.part field ≠ [] := by
  have hoption : ∀ o : Option Value, o.isSome = true ↔ o.toList ≠ [] := by
    intro o
    cases o <;> simp
  have hdescribed : ∀ o : Option Value, (o.map Value.describe).isSome = true ↔ o.toList ≠ [] := by
    intro o
    rw [Option.isSome_map, hoption]
  have hpairs : ∀ pairs : Pairs, (Leaf.describedPairs pairs).isSome = true ↔ pairs.spread ≠ [] := by
    intro pairs
    cases pairs <;> simp [Leaf.describedPairs, Pairs.spread]
  rw [under_description e hfield]
  rw [mem_fields_iff] at hfield
  cases e with
  | group key name =>
      rcases hfield with rfl | rfl | rfl | rfl | rfl | rfl | rfl <;> simp [described, part]
  | leaf l =>
      rcases hfield with rfl | rfl | rfl | rfl | rfl | rfl | rfl
      · simp [described, part]
      · simp [described, part]
      · exact hoption l.typeWord
      · exact hdescribed l.targetRecord
      · exact hdescribed l.templateRecord
      · exact hpairs l.options
      · exact hpairs l.passthrough

theorem rendersAlike {e : Entry} (h : e.HasAttributeNames) : e.RendersAlike where
  flattened := by
    rw [Value.describe, record_eq_flatMap_part, Value.describeItems_eq_map, List.map_flatMap,
      Entry.flattened]
    refine congrArg Value.list (List.flatMap_congr fun field hfield => ?_)
    rw [← Value.describeItems_eq_map, describeItems_part h hfield]
  record := e.record_eq_flatMap_part
  shown := fun _ hfield => describeItems_part h hfield
  present := fun _ hfield => e.isSome_under_iff hfield

end Entry

/-! ### Entries of a compilation -/

namespace Visit

theorem hasAttributeNames_of_entry {defaultType : EntryType} {u : Visit} {e : Entry}
    (h : u.entry defaultType = .ok e) (hnames : u.node.HasTextNames)
    (hdistinct : u.node.attributes.HasDistinctKeys) : e.HasAttributeNames := by
  rcases entry_cases h with ⟨-, rfl⟩ | ⟨-, type, template, -, -, rfl⟩
  · trivial
  · refine ⟨fun p hp => ?_, Declaration.hasDistinctKeys_options_append_passthrough hdistinct⟩
    have hset : p ∈ u.node.setAttributes := by
      rcases List.mem_append.mp hp with hp | hp <;> exact List.mem_of_mem_filter hp
    exact hnames p.1 (List.mem_map_of_mem (List.mem_of_mem_filter hset))

end Visit

namespace Compile

variable {plan : Plan} {v : Value} {c : Compilation}

/-- Where all attributes have texts for names, each entry has two renderings that carry
the same. -/
theorem renderings_agree (h : forest plan v = .ok c)
    (hnames : ∀ u ∈ Forest.visits v, u.node.HasTextNames)
    (hdistinct : ∀ u ∈ Forest.visits v, u.node.attributes.HasDistinctKeys) :
    ∀ e ∈ c.entries, e.RendersAlike := by
  intro e he
  obtain ⟨u, hu, hentry⟩ := exists_visit_of_mem_entries h he
  exact Entry.rendersAlike (Visit.hasAttributeNames_of_entry hentry (hnames u hu) (hdistinct u hu))

/-- A group above a leaf with a target, a template, two options and two attributes that
are no keywords, and a leaf that has only keys. -/
theorem renderings_agree_of_nested :
    let v : Value := .list [
      .node (.str "Tasks") [(.str "keys", .str "t"), (.str "children", .list [
        .map [(.str "name", .str "Todo"), (.str "x", .tuple [.path "a", .none]),
          (.str "keys", .str "o"), (.str "prepend", .int 1), (.str "file", .path "todo.org"),
          (.str "template-function", .callable (.function "cb" "f")),
          (.str "y", .map [(.int 1, .bytes [97])]), (.str "no-save", .list [])]])],
      .node (.bytes [110]) [(.str "keys", .str "n")]]
    ∃ c, forest {} v = .ok c ∧ c.entries.map (fun e => e.record.length) = [2, 13, 2] ∧
      ∀ e ∈ c.entries, e.RendersAlike := by
  intro v
  have hnames : ∀ u ∈ Forest.visits v, u.node.HasTextNames := by decide +kernel
  have hdistinct : ∀ u ∈ Forest.visits v, u.node.attributes.HasDistinctKeys := by
    unfold Pairs.HasDistinctKeys
    decide +kernel
  exact ⟨_, rfl, rfl, @renderings_agree {} v _ rfl hnames hdistinct⟩

end Compile

end CaptureForest
