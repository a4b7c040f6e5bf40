import CaptureForest.Proofs.Renderings

/-!
# Descriptions as normal forms

The description of a value is a tree of maps with distinct textual keys, lists, and
scalars that structured output knows.  These trees are the values that are described by
themselves, so nothing changes when a description is described again.  Sequences keep
their items in order, and so do maps unless two keys have the same text.
-/

namespace CaptureForest

namespace Value

/-- The values that stand for themselves in structured output. -/
inductive IsTree : Value → Prop
  | none : IsTree .none
  | bool (b : Bool) : IsTree (.bool b)
  | int (n : Int) : IsTree (.int n)
  | float (x : Binary64) : IsTree (.float x)
  | text {v : Value} (h : v.isText = true) : IsTree v
  | list {items : List Value} (h : ∀ item ∈ items, IsTree item) : IsTree (.list items)
  | map {pairs : Pairs} (hkeys : ∀ p ∈ pairs, ∃ s, p.1 = .str s) (hdistinct : pairs.HasDistinctKeys)
      (hvalues : ∀ p ∈ pairs, IsTree p.2) : IsTree (.map pairs)

theorem describePairs_eq_map (pairs : Pairs) :
    describePairs pairs = pairs.map fun p => (.str p.1.plain, p.2.describe) := by
  induction pairs with
  | nil => rfl
  | cons p rest ih => rw [describePairs, ih, List.map_cons]

theorem describe_map (pairs : Pairs) :
    (Value.map pairs).describe =
      .map (Pairs.settled (pairs.map fun p => (.str p.1.plain, p.2.describe))) := by
  rw [describe, Pairs.ofList_eq_settled, describePairs_eq_map]

theorem describe_of_items? {v : Value} {items : List Value} (h : v.items? = some items) :
    v.describe = .list (items.map describe) := by
  cases v with
  | list _ | tuple _ =>
      obtain rfl := Option.some.inj h
      rw [describe, describeItems_eq_map]
  | _ => cases h

/-- A map of which no two keys have the same text keeps its pairs. -/
theorem describe_map_of_nodup {pairs : Pairs} (h : (pairs.map fun p => p.1.plain).Nodup) :
    (Value.map pairs).describe = .map (pairs.map fun p => (.str p.1.plain, p.2.describe)) := by
  have hdistinct : Pairs.HasDistinctKeys (pairs.map fun p => (.str p.1.plain, p.2.describe)) := by
    unfold Pairs.HasDistinctKeys Pairs.keys
    rw [List.map_map, List.pairwise_map]
    rw [List.nodup_iff_pairwise_ne, List.pairwise_map] at h
    refine h.imp fun hne => Bool.eq_false_iff.mpr fun hsame => hne ?_
    exact Option.some.inj (text?_of_same hsame)
  rw [describe_map, Pairs.settled_of_hasDistinctKeys hdistinct]

mutual

theorem isTree_describe : ∀ v : Value, v.describe.IsTree
  | .list items => .list (isTree_describeItems items)
  | .tuple items => .list (isTree_describeItems items)
  | .map pairs => by
    have hpairs := isTree_describePairs pairs
    rw [describe, Pairs.ofList_eq_settled]
    refine .map ?_ (Pairs.hasDistinctKeys_settled _) ?_
    · intro p hp
      obtain ⟨⟨v, hv⟩, -⟩ := Pairs.exists_of_mem_settled hp
      exact (hpairs _ hv).1
    · intro p hp
      obtain ⟨-, k, hk⟩ := Pairs.exists_of_mem_settled hp
      exact (hpairs _ hk).2
  | .none => .none
  | .bool b => .bool b
  | .int n => .int n
  | .float x => .float x
  | .callable _ => .text rfl
  | .str _ => .text rfl
  | .entryType _ => .text rfl
  | .phase _ => .text rfl
  | .bytes _ => .text rfl
  | .node _ _ => .text rfl
  | .path _ => .text rfl
  | .foreign _ _ _ => .text rfl

theorem isTree_describeItems : ∀ items : List Value, ∀ item ∈ describeItems items, item.IsTree
  | [], _, h => by cases h
  | first :: rest, item, h => by
    rcases List.mem_cons.mp h with rfl | h
    · exact isTree_describe first
    · exact isTree_describeItems rest item h

theorem isTree_describePairs : ∀ pairs : Pairs, ∀ p ∈ describePairs pairs,
    (∃ s, p.1 = .str s) ∧ p.2.IsTree
  | [], _, h => by cases h
  | (k, v) :: rest, p, h => by
    rcases List.mem_cons.mp h with rfl | h
    · exact ⟨⟨_, rfl⟩, isTree_describe v⟩
    · exact isTree_describePairs rest p h

end

theorem IsTree.describe_eq {v : Value} (h : v.IsTree) : v.describe = v := by
  induction h with
  | none | bool _ | int _ | float _ => rfl
  | text h => exact describe_of_isText h
  | @list items _ ih =>
      rw [describe_of_items? rfl, List.map_congr_left ih, List.map_id']
  | @map pairs hkeys hdistinct _ ih =>
      have hpairs : (pairs.map fun p => (Value.str p.1.plain, p.2.describe)) = pairs := by
        refine (List.map_congr_left fun p hp => ?_).trans (List.map_id pairs)
        obtain ⟨s, hs⟩ := hkeys p hp
        rw [ih p hp, hs, plain, ← hs]
        rfl
      rw [describe_map, hpairs, Pairs.settled_of_hasDistinctKeys hdistinct]

theorem describe_eq_self_iff (v : Value) : v.describe = v ↔ v.IsTree := by
  constructor
  · intro h
    rw [← h]
    exact isTree_describe v
  · exact IsTree.describe_eq

/-- Descriptions are normal forms: trees, which are the values that are described by
themselves, so a description is its own description.  A sequence is described item by item
in its order, and a map pair by pair in its order if its keys have different texts. -/
theorem describe_isNormalForm (v : Value) :
    v.describe.IsTree ∧ v.describe.describe = v.describe ∧ (v.describe = v ↔ v.IsTree) ∧
      (∀ items, v.items? = some items → v.describe = .list (items.map describe)) ∧
      ∀ pairs, v = .map pairs → (pairs.map fun p => p.1.plain).Nodup →
        v.describe = .map (pairs.map fun p => (.str p.1.plain, p.2.describe)) := by
  refine ⟨isTree_describe v, (isTree_describe v).describe_eq, describe_eq_self_iff v, ?_, ?_⟩
  · intro items hitems
    exact describe_of_items? hitems
  · rintro pairs rfl hnodup
    exact describe_map_of_nodup hnodup

/-- The keys are a number, a tuple and an absent value, and the values hold a callable, a
path, a declaration and bytes. -/
theorem describe_isNormalForm_of_keys :
    let items : List Value := [.callable (.function "cb" "f"), .path "a/b"]
    let pairs : Pairs := [(.int 1, .tuple items), (.tuple [.int 1], .node (.str "A") []),
      (.none, .list [.bytes [97], .map [(.bool true, .phase .mode)]])]
    (Value.tuple items).describe = .list [.str "cb:f", .str "a/b"] ∧
      (Value.map pairs).describe = .map [(.str "1", .list [.str "cb:f", .str "a/b"]),
        (.str "(1,)", .str "Declaration(name='A', attributes=\x7b\x7d)"),
        (.str "None", .list [.str "b'a'", .map [(.str "True", .phase .mode)]])] ∧
      (Value.map pairs).describe.describe = (Value.map pairs).describe := by
  intro items pairs
  obtain ⟨-, -, -, hitems, -⟩ := describe_isNormalForm (.tuple items)
  obtain ⟨-, hagain, -, -, hpairs⟩ := describe_isNormalForm (.map pairs)
  exact ⟨hitems items rfl, hpairs pairs rfl (by decide +kernel), hagain⟩

end Value

end CaptureForest
