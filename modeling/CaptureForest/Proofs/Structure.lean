import CaptureForest.Output.Render
import CaptureForest.Proofs.Declaring
import CaptureForest.Proofs.Descriptions

/-!
# Structured output

Values are described for structured output: whatever they are, their descriptions are
made of texts, numbers, truth values, lists, and maps with textual keys.  The names of
attributes that are handed through are the only part of a compilation that is not
described, so its description is structured, and JSON can be written from it, exactly
if these names are fit to be keys.
-/

namespace CaptureForest

namespace Value

/-- Made only of texts, numbers, truth values, absent values, lists, and maps with keys
of a kind. -/
inductive IsStructured (isKey : Value → Prop) : Value → Prop
  | none : IsStructured isKey .none
  | bool (b : Bool) : IsStructured isKey (.bool b)
  | int (n : Int) : IsStructured isKey (.int n)
  | float (x : Binary64) : IsStructured isKey (.float x)
  | text {v : Value} (h : v.isText = true) : IsStructured isKey v
  | list {items : List Value} (h : ∀ item ∈ items, IsStructured isKey item) :
      IsStructured isKey (.list items)
  | map {pairs : Pairs} (hkeys : ∀ p ∈ pairs, isKey p.1)
      (hvalues : ∀ p ∈ pairs, IsStructured isKey p.2) : IsStructured isKey (.map pairs)

/-- A kind of keys that takes all texts and does not tell keys apart that count as the
same. -/
structure IsKeyKind (isKey : Value → Prop) : Prop where
  text : ∀ {k : Value}, k.isText = true → isKey k
  same : ∀ {k l : Value}, k.same l = true → (isKey k ↔ isKey l)

/-- The keys that have a text in JSON. -/
def isJsonKey (v : Value) : Bool := v.isAbsent || v.number?.isSome || v.isText

variable {isKey : Value → Prop}

theorem isStructured_list_iff (items : List Value) :
    IsStructured isKey (.list items) ↔ ∀ item ∈ items, IsStructured isKey item := by
  constructor
  · intro h
    cases h with
    | text h => cases h
    | list h => exact h
  · exact .list

theorem isStructured_map_iff (pairs : Pairs) :
    IsStructured isKey (.map pairs) ↔
      (∀ p ∈ pairs, isKey p.1) ∧ ∀ p ∈ pairs, IsStructured isKey p.2 := by
  constructor
  · intro h
    cases h with
    | text h => cases h
    | map hkeys hvalues => exact ⟨hkeys, hvalues⟩
  · rintro ⟨hkeys, hvalues⟩
    exact .map hkeys hvalues

theorem isText_of_same {k l : Value} (h : k.same l = true) : k.isText = l.isText := by
  rw [isText, isText, text?_of_same h]

theorem isKeyKind_isText : IsKeyKind fun k => k.isText = true where
  text := id
  same h := by rw [isText_of_same h]

theorem isJsonKey_of_same {k l : Value} (h : k.same l = true) : k.isJsonKey = l.isJsonKey := by
  unfold same at h
  split at h
  · rfl
  · rfl
  · rfl
  · rfl
  · unfold scalarSame at h
    split at h
    · simp_all [isJsonKey]
    · simp_all [isJsonKey]
    · cases h
    · split at h
      · simp_all [isJsonKey, isText]
      · split at h <;> simp_all [isJsonKey, isAbsent, isText, number?, text?]

theorem isKeyKind_isJsonKey : IsKeyKind fun k => k.isJsonKey = true where
  text h := by simp [isJsonKey, h]
  same h := by rw [isJsonKey_of_same h]

theorem isKeyKind_true : IsKeyKind fun _ => True where
  text _ := trivial
  same _ := Iff.rfl

end Value

/-! ### Keys of maps -/

namespace Pairs

variable {isKey : Value → Prop}

theorem exists_mem_settled {p : Value × Value} {pairs : Pairs} (h : p ∈ pairs) :
    ∃ q ∈ settled pairs, q.1 = p.1 ∨ q.1.same p.1 = true := by
  induction pairs using settled.induct with
  | case1 => cases h
  | case2 key value later ih =>
      rw [settled]
      rcases List.mem_cons.mp h with rfl | h
      · exact ⟨_, List.mem_cons_self, .inl rfl⟩
      · cases hsame : key.same p.1 with
        | true => exact ⟨_, List.mem_cons_self, .inr hsame⟩
        | false =>
            obtain ⟨q, hq, hkey⟩ := ih (List.mem_filter.mpr ⟨h, by simp [hsame]⟩)
            exact ⟨q, List.mem_cons_of_mem _ hq, hkey⟩

theorem forall_settled_iff (hkind : Value.IsKeyKind isKey) (pairs : Pairs) :
    (∀ p ∈ settled pairs, isKey p.1) ↔ ∀ p ∈ pairs, isKey p.1 := by
  constructor
  · intro h p hp
    obtain ⟨q, hq, hkey | hsame⟩ := exists_mem_settled hp
    · exact hkey ▸ h q hq
    · exact (hkind.same hsame).mp (h q hq)
  · intro h p hp
    obtain ⟨⟨v, hv⟩, -⟩ := exists_of_mem_settled hp
    exact h (p.1, v) hv

end Pairs

/-! ### Descriptions -/

namespace Value

variable {isKey : Value → Prop}

theorem IsTree.isStructured (hkind : IsKeyKind isKey) {v : Value} (h : v.IsTree) :
    v.IsStructured isKey := by
  induction h with
  | none => exact .none
  | bool b => exact .bool b
  | int n => exact .int n
  | float x => exact .float x
  | text h => exact .text h
  | list _ ih => exact .list ih
  | map hkeys _ _ ih =>
      refine .map (fun p hp => ?_) ih
      obtain ⟨s, hs⟩ := hkeys p hp
      exact hkind.text (congrArg isText hs)

/-- The description of any value is structured. -/
theorem isStructured_describe (hkind : IsKeyKind isKey) (v : Value) :
    v.describe.IsStructured isKey :=
  (isTree_describe v).isStructured hkind

theorem isStructured_record_iff (hkind : IsKeyKind isKey) (fields : List (String × Value)) :
    (Value.record fields).IsStructured isKey ↔ ∀ f ∈ fields, f.2.IsStructured isKey := by
  rw [record, isStructured_map_iff]
  simp only [Pairs.fields, List.forall_mem_map]
  exact and_iff_right fun f _ => hkind.text rfl

/-- The values of described pairs are described, and their names are kept. -/
theorem isStructured_described_iff (hkind : IsKeyKind isKey) (pairs : Pairs) :
    pairs.described.IsStructured isKey ↔ ∀ p ∈ pairs, isKey p.1 := by
  rw [Pairs.described, Pairs.ofList_eq_settled, isStructured_map_iff, Pairs.forall_settled_iff hkind,
    List.forall_mem_map]
  refine and_iff_left ?_
  intro p hp
  obtain ⟨-, k, hk⟩ := Pairs.exists_of_mem_settled hp
  obtain ⟨q, -, hq⟩ := List.mem_map.mp hk
  obtain ⟨-, hvalue⟩ := Prod.mk.inj hq
  rw [← hvalue]
  exact isStructured_describe hkind q.2

end Value

/-! ### JSON -/

namespace Json

theorem exists_keyText_iff (k : Value) : (∃ s, keyText k = .ok s) ↔ k.isJsonKey = true := by
  unfold keyText Value.isJsonKey Value.isText
  cases k <;> simp [Value.isAbsent, Value.number?, Value.text?]

variable (style : Style) (level : Nat)

theorem exists_writeItems_iff (items : List Value) :
    (∃ parts, writeItems style level items = .ok parts) ↔
      ∀ item ∈ items, ∃ s, write style level item = .ok s := by
  induction items with
  | nil => simp [writeItems]
  | cons item rest ih =>
      rw [List.forall_mem_cons, ← ih, writeItems]
      cases write style level item with
      | error f => simp [bind, Except.bind]
      | ok first => cases writeItems style level rest <;> simp [bind, Except.bind, pure, Except.pure]

theorem exists_writePairs_iff (pairs : Pairs) :
    (∃ parts, writePairs style level pairs = .ok parts) ↔
      ∀ p ∈ pairs, p.1.isJsonKey = true ∧ ∃ s, write style level p.2 = .ok s := by
  induction pairs with
  | nil => simp [writePairs]
  | cons p rest ih =>
      rw [List.forall_mem_cons, ← ih, ← exists_keyText_iff, writePairs]
      cases keyText p.1 with
      | error f => simp [bind, Except.bind]
      | ok key =>
          cases write style level p.2 with
          | error f => simp [bind, Except.bind]
          | ok first =>
              cases writePairs style level rest <;> simp [bind, Except.bind, pure, Except.pure]

theorem exists_map_iff {α β ε : Type} (f : α → β) (r : Except ε α) :
    (∃ b, r.map f = .ok b) ↔ ∃ a, r = .ok a := by
  cases r <;> simp [Except.map]

/-- What is structured but for its keys can be written exactly if these have texts. -/
theorem exists_write_iff {v : Value} (h : v.IsStructured fun _ => True) (level : Nat) :
    (∃ s, write style level v = .ok s) ↔ v.IsStructured fun k => k.isJsonKey = true := by
  -- nothing but a key of a map can keep a structured value from being written
  induction h generalizing level with
  | none => exact iff_of_true ⟨_, rfl⟩ .none
  | bool b => exact iff_of_true ⟨_, rfl⟩ (.bool b)
  | int n => exact iff_of_true ⟨_, rfl⟩ (.int n)
  | float x => exact iff_of_true ⟨_, rfl⟩ (.float x)
  | @text v h =>
      refine iff_of_true ?_ (.text h)
      cases v with
      | str _ | entryType _ | phase _ => exact ⟨_, rfl⟩
      | _ => cases h
  | @list items _ ih =>
      rw [write, exists_map_iff, exists_writeItems_iff, Value.isStructured_list_iff]
      exact forall₂_congr fun item hitem => ih item hitem (level + 1)
  | @map pairs _ _ ih =>
      rw [write, exists_map_iff, exists_writePairs_iff, Value.isStructured_map_iff, ← forall₂_and]
      exact forall₂_congr fun p hp => and_congr_right' (ih p hp (level + 1))

end Json

/-! ### Entries and hooks -/

namespace Leaf

variable {isKey : Value → Prop}

theorem forall_mem_field_iff {P : Value → Prop} (name : String) (value : Option Value) :
    (∀ f ∈ field name value, P f.2) ↔ ∀ v ∈ value, P v := by
  cases value <;> simp [field]

theorem isStructured_describedPairs_iff (hkind : Value.IsKeyKind isKey) (pairs : Pairs) :
    (∀ v ∈ describedPairs pairs, v.IsStructured isKey) ↔ ∀ p ∈ pairs, isKey p.1 := by
  cases pairs with
  | nil => simp [describedPairs]
  | cons p rest =>
      rw [← Value.isStructured_described_iff hkind]
      simp [describedPairs]

/-- All of a leaf is described but for the names of the attributes that it shows. -/
theorem isStructured_description_iff (hkind : Value.IsKeyKind isKey) (l : Leaf) :
    l.description.IsStructured isKey ↔ ∀ p ∈ l.shown, isKey p.1 := by
  have hdescribed : ∀ v : Value, v.describe.IsStructured isKey := Value.isStructured_describe hkind
  have htext : ∀ s : String, (Value.str s).IsStructured isKey := fun s => .text rfl
  rw [description, Value.isStructured_record_iff hkind, shown]
  simp only [List.forall_mem_append, forall_mem_field_iff, isStructured_describedPairs_iff hkind]
  simp [hdescribed, htext]

end Leaf

theorem Entry.isStructured_description_group {isKey : Value → Prop}
    (hkind : Value.IsKeyKind isKey) (key : String) (name : Value) :
    (Entry.group key name).description.IsStructured isKey := by
  rw [description, Value.isStructured_record_iff hkind]
  simp only [List.forall_mem_cons]
  exact ⟨.text rfl, Value.isStructured_describe hkind name, .bool true,
    fun _ h => absurd h List.not_mem_nil⟩

namespace Visit

variable {isKey : Value → Prop}

/-- A leaf hands nothing through but under keys of a kind. -/
def HandsThrough (isKey : Value → Prop) (u : Visit) : Prop :=
  u.node.hasChildren = false → ∀ p ∈ u.node.passthrough, isKey p.1

theorem isStructured_description_iff (hkind : Value.IsKeyKind isKey) {defaultType : EntryType}
    {u : Visit} {e : Entry} (h : u.entry defaultType = .ok e) :
    e.description.IsStructured isKey ↔ u.HandsThrough isKey := by
  unfold HandsThrough
  rcases entry_cases h with ⟨hchildren, rfl⟩ | ⟨hchildren, type, template, -, -, rfl⟩
  · have hgroup := Entry.isStructured_description_group hkind
      (Compile.fullKey u.ancestors u.node) u.node.name
    simp [hgroup, hchildren]
  · have hoptions : ∀ p ∈ u.node.options, isKey p.1 := by
      intro p hp
      obtain ⟨word, -, htext⟩ := (Value.isAmong_iff _ _).mp (List.mem_filter.mp hp).2
      exact hkind.text ((Value.isText_iff _).mpr ⟨word, htext⟩)
    rw [Entry.description, Leaf.isStructured_description_iff hkind, Leaf.shown, List.forall_mem_append,
      and_iff_right hoptions, forall_prop_of_true hchildren]

theorem isStructured_of_mem_registrations (hkind : Value.IsKeyKind isKey) {u : Visit}
    {hook : HookRegistration} {d : Value} (hhook : hook ∈ u.registrations)
    (hd : hook.description = .ok d) : d.IsStructured isKey := by
  obtain ⟨p, rfl⟩ := exists_phase_of_mem_registrations hhook
  obtain rfl := Except.ok.inj hd
  rw [Value.isStructured_record_iff hkind]
  simp only [List.forall_mem_cons]
  exact ⟨.text rfl, .text rfl, .text rfl, .text rfl, Value.isStructured_describe hkind _,
    Value.isStructured_describe hkind _, nofun⟩

end Visit

/-! ### Whole compilations -/

namespace Forest

/-- The leaves of a forest hand nothing through but under keys of a kind. -/
def HandsThrough (isKey : Value → Prop) (forest : Value) : Prop :=
  ∀ u ∈ visits forest, u.HandsThrough isKey

end Forest

namespace Compilation

variable {isKey : Value → Prop} {plan : Plan} {v : Value} {c : Compilation}

theorem isStructured_entries_iff (hkind : Value.IsKeyKind isKey) (h : Compile.forest plan v = .ok c) :
    (∀ e ∈ c.entries, e.description.IsStructured isKey) ↔ Forest.HandsThrough isKey v := by
  constructor
  · intro hentries u hu
    obtain ⟨e, he, hentry⟩ := Compile.exists_entry_of_mem_visits h hu
    exact (Visit.isStructured_description_iff hkind hentry).mp (hentries e he)
  · intro hvisits e he
    obtain ⟨u, hu, hentry⟩ := Compile.exists_visit_of_mem_entries h he
    exact (Visit.isStructured_description_iff hkind hentry).mpr (hvisits u hu)

theorem exists_hookDescriptions (h : Compile.forest plan v = .ok c) :
    ∃ hooks, c.hookDescriptions = .ok hooks := by
  refine (exists_mapM_eq_ok_iff _ _).mpr fun hook hhook => ?_
  obtain ⟨p, hp⟩ := Compile.hasMember_of_mem_hooks h hook hhook
  simp [HookRegistration.description, HookRegistration.member, hp]

theorem isStructured_hookDescriptions (hkind : Value.IsKeyKind isKey)
    (h : Compile.forest plan v = .ok c) {hooks : List Value} (hhooks : c.hookDescriptions = .ok hooks) :
    ∀ d ∈ hooks, d.IsStructured isKey := by
  intro d hd
  have hrelated := (mapM_eq_ok_iff _ _ _).mp hhooks
  obtain ⟨hook, hhook, hdescription⟩ := exists_related_of_mem hrelated.flip hd
  rw [(Compile.areOf_of_forest h).hooks] at hhook
  obtain ⟨u, -, hu⟩ := List.mem_flatMap.mp hhook
  exact Visit.isStructured_of_mem_registrations hkind hu hdescription

/-- The description of a compilation with the descriptions of its hooks. -/
def described (c : Compilation) (hooks : List Value) : Value :=
  .record [
    ("entries", .list (c.entries.map Entry.description)),
    ("hooks", .list hooks),
    ("total_entries", .int c.entries.length),
    ("total_hooks", .int c.hooks.length)]

theorem isStructured_described_iff (hkind : Value.IsKeyKind isKey) (h : Compile.forest plan v = .ok c)
    {hooks : List Value} (hhooks : c.hookDescriptions = .ok hooks) :
    (c.described hooks).IsStructured isKey ↔ Forest.HandsThrough isKey v := by
  have hdescribed := isStructured_hookDescriptions hkind h hhooks
  rw [described, Value.isStructured_record_iff hkind, ← isStructured_entries_iff hkind h]
  simp only [List.forall_mem_cons, Value.isStructured_list_iff, List.forall_mem_map]
  exact ⟨And.left, fun hentries => ⟨hentries, hdescribed, .int _, .int _, nofun⟩⟩

/-- The reply that tells of a compilation, with its description as the data. -/
def reply (c : Compilation) (hooks : List Value) : Value :=
  .record [
    ("success", .bool true),
    ("message", .str ("Compiled " ++ toString c.entries.length ++ " entries")),
    ("data", c.described hooks),
    ("warnings", .list []),
    ("errors", .list [])]

theorem isStructured_reply_iff (hkind : Value.IsKeyKind isKey) (c : Compilation)
    (hooks : List Value) :
    (c.reply hooks).IsStructured isKey ↔ (c.described hooks).IsStructured isKey := by
  have hempty : (Value.list []).IsStructured isKey := .list nofun
  rw [reply, Value.isStructured_record_iff hkind]
  simp only [List.forall_mem_cons]
  exact ⟨fun h => h.2.2.1, fun h => ⟨.bool true, .text rfl, h, hempty, hempty, nofun⟩⟩

theorem entries_of_json {p : Presentation} (hformat : p.format = .json) (c : Compilation)
    {hooks : List Value} (hhooks : c.hookDescriptions = .ok hooks) :
    p.entries (.list (c.entries.map Entry.description)) (.list hooks) =
      Json.render p.style (c.reply hooks) := by
  have hlength : hooks.length = c.hooks.length :=
    ((mapM_eq_ok_iff _ _ _).mp hhooks).length_eq.symm
  have hreply : Reply.ofEntries (.list (c.entries.map Entry.description)) (.list hooks) =
      .ok { success := .bool true
            message := .str ("Compiled " ++ toString c.entries.length ++ " entries")
            data := c.described hooks } := by
    simp [Reply.ofEntries, Value.elements, Value.elements?, hlength, described, bind, Except.bind,
      pure, Except.pure]
  rw [Presentation.entries, hformat]
  simp only [hreply, bind, Except.bind, Presentation.reply, hformat]
  rfl

/-- JSON can be made of a compilation exactly if its leaves hand nothing through but
under names that have a text in JSON. -/
theorem exists_json_iff (h : Compile.forest plan v = .ok c) {hooks : List Value}
    (hhooks : c.hookDescriptions = .ok hooks) {p : Presentation} (hformat : p.format = .json) :
    (∃ text, p.entries (.list (c.entries.map Entry.description)) (.list hooks) = .ok text) ↔
      Forest.HandsThrough (fun k => k.isJsonKey = true) v := by
  have hanything : (c.reply hooks).IsStructured fun _ => True :=
    (isStructured_reply_iff Value.isKeyKind_true c hooks).mpr <|
      (isStructured_described_iff Value.isKeyKind_true h hhooks).mpr fun _ _ _ _ _ => trivial
  rw [entries_of_json hformat c hhooks, Json.render, Json.exists_write_iff p.style hanything,
    isStructured_reply_iff Value.isKeyKind_isJsonKey,
    isStructured_described_iff Value.isKeyKind_isJsonKey h hhooks]

/-- The description of a compilation is structured exactly if its leaves hand nothing
through but under textual names.  JSON can be made of its entries and hooks exactly if
these names have a text in JSON. -/
theorem structured_output_iff (h : Compile.forest plan v = .ok c) :
    ∃ hooks d, c.hookDescriptions = .ok hooks ∧ c.description = .ok d ∧
      (d.IsStructured (fun k => k.isText = true) ↔
        Forest.HandsThrough (fun k => k.isText = true) v) ∧
      ∀ p : Presentation, p.format = .json →
        ((∃ text, p.entries (.list (c.entries.map Entry.description)) (.list hooks) = .ok text) ↔
          Forest.HandsThrough (fun k => k.isJsonKey = true) v) := by
  obtain ⟨hooks, hhooks⟩ := exists_hookDescriptions h
  have hdescription : c.description = .ok (c.described hooks) := by
    rw [description, hhooks, described]
  exact ⟨hooks, c.described hooks, hhooks, hdescription,
    isStructured_described_iff Value.isKeyKind_isText h hhooks,
    fun _ hformat => exists_json_iff h hhooks hformat⟩

/-- A group with a hook below it, and values that are no texts under textual names: a
path, a map with bytes for a key, and a date. -/
theorem structured_output_iff_of_values :
    let v : Value := .list [
      .node (.str "Tasks") [(.str "keys", .str "t"), (.str "children", .list [
        .node (.str "Todo") [(.str "keys", .str "o"), (.str "file", .path "todo.org"),
          (.str "hook", .callable (.function "cb" "f"))]])],
      .map [(.str "name", .bytes [110]), (.str "keys", .str "n"), (.str "prepend", .tuple []),
        (.str "x", .map [(.bytes [97], .foreign "date" "2001-01-01" "datetime.date(2001, 1, 1)")])]]
    ∃ c hooks d, Compile.forest {} v = .ok c ∧ c.hookDescriptions = .ok hooks ∧
      c.description = .ok d ∧ d.IsStructured (fun k => k.isText = true) ∧
      ∃ text, (Presentation.ofTerminal .json {}).entries (.list (c.entries.map Entry.description))
        (.list hooks) = .ok text := by
  intro v
  have htexts : Forest.HandsThrough (fun k => k.isText = true) v := by
    unfold Forest.HandsThrough Visit.HandsThrough
    decide +kernel
  have hkeys : Forest.HandsThrough (fun k => k.isJsonKey = true) v := by
    unfold Forest.HandsThrough Visit.HandsThrough
    decide +kernel
  obtain ⟨hooks, d, hhooks, hd, hstructured, hjson⟩ := @structured_output_iff {} v _ rfl
  exact ⟨_, hooks, d, rfl, hhooks, hd, hstructured.mpr htexts, (hjson _ rfl).mpr hkeys⟩

/-- A date for a name: the leaf compiles, but its description keeps the name, and no
JSON can be made of it. -/
theorem unstructured_output_of_date :
    let v : Value := .list [.map [(.str "name", .str "A"), (.str "keys", .str "a"),
      (.foreign "date" "2001-01-01" "datetime.date(2001, 1, 1)", .str "x")]]
    ∃ c d, Compile.forest {} v = .ok c ∧ c.description = .ok d ∧
      ¬ d.IsStructured (fun k => k.isText = true) ∧
      (Presentation.ofTerminal .json {}).entries (.list (c.entries.map Entry.description))
        (.list []) = .error .wrongType := by
  intro v
  have hcompile : Compile.forest {} v = .ok ⟨[.leaf {
      key := "a", name := .str "A", type := some .entry
      passthrough := [(.foreign "date" "2001-01-01" "datetime.date(2001, 1, 1)", .str "x")] }],
      []⟩ := rfl
  refine ⟨_, _, hcompile, rfl, ?_, rfl⟩
  intro hstructured
  have hthrough := (isStructured_described_iff Value.isKeyKind_isText hcompile rfl).mp hstructured
  have hdate := hthrough ⟨[], _⟩ List.mem_cons_self rfl _ List.mem_cons_self
  cases hdate

end Compilation

end CaptureForest
