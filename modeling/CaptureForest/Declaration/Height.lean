import CaptureForest.Declaration.Children
/-!
# Height of declarations

The nesting depth of values, which keys of maps do not count for. Children lie strictly lower than
their parent, so the tree below a declaration is finite.
-/

namespace CaptureForest

namespace Value

mutual

def height : Value → Nat
  | .list items => heightItems items + 1
  | .tuple items => heightItems items + 1
  | .map pairs => heightPairs pairs + 1
  | .node _ attributes => heightPairs attributes + 1
  | _ => 0

def heightItems : List Value → Nat
  | [] => 0
  | item :: rest => max (height item) (heightItems rest)

def heightPairs : List (Value × Value) → Nat
  | [] => 0
  | (_, v) :: rest => max (height v) (heightPairs rest)

end

theorem height_lookup_le {word : String} {pairs : Pairs} {v : Value}
    (h : Pairs.lookup? word pairs = some v) : v.height ≤ heightPairs pairs := by
  induction pairs with
  | nil => simp [Pairs.lookup?] at h
  | cons pair rest ih =>
    obtain ⟨k, w⟩ := pair
    simp only [Pairs.lookup?] at h
    simp only [heightPairs]
    split at h
    · cases h
      omega
    · have := ih h
      omega

theorem height_get_le (word : String) (pairs : Pairs) :
    (Pairs.get word pairs).height ≤ heightPairs pairs := by
  unfold Pairs.get
  cases h : Pairs.lookup? word pairs with
  | none => simp [ofOption, height]
  | some v => simpa [ofOption] using height_lookup_le h

theorem heightPairs_insert_le (key v : Value) (pairs : Pairs) :
    heightPairs (Pairs.insert key v pairs) ≤ max v.height (heightPairs pairs) := by
  induction pairs with
  | nil => simp [Pairs.insert, heightPairs]
  | cons pair rest ih =>
    obtain ⟨k, w⟩ := pair
    simp only [Pairs.insert]
    split
    · simp only [heightPairs]
      omega
    · simp only [heightPairs]
      omega

end Value

namespace Declaration

def height (node : Declaration) : Nat := Value.heightPairs node.attributes

theorem height_accept_le (node : Declaration) (entry : Value × Value) :
    (node.accept entry).height ≤ max entry.2.height node.height := by
  unfold accept
  dsimp only
  split
  · simp only [height]
    omega
  · simpa [height] using Value.heightPairs_insert_le _ entry.2 node.attributes

theorem height_foldl_accept_le (entries : Pairs) (node : Declaration) :
    (entries.foldl accept node).height ≤ max (Value.heightPairs entries) node.height := by
  induction entries generalizing node with
  | nil => exact Nat.le_max_right _ _
  | cons entry rest ih =>
    obtain ⟨k, v⟩ := entry
    have h₁ := ih (node.accept (k, v))
    have h₂ := height_accept_le node (k, v)
    simp only [List.foldl_cons, Value.heightPairs] at *
    omega

theorem height_ofMapping_le (entries : Pairs) :
    (ofMapping entries).height ≤ Value.heightPairs entries := by
  have := height_foldl_accept_le entries ⟨.none, []⟩
  simpa [ofMapping, height, Value.heightPairs] using this

theorem height_lt_of_ofValue? {v : Value} {node : Declaration} (h : ofValue? v = some node) :
    node.height < v.height := by
  cases v <;> simp [ofValue?] at h
  case map entries =>
    subst h
    have := height_ofMapping_le entries
    simp only [Value.height]
    omega
  case node name attributes =>
    subst h
    simp [height, Value.height]

theorem height_lt_of_ofItems {index : Nat} {items : List Value} {nodes : List Declaration}
    (h : ofItems index items = .ok nodes) {node : Declaration} (hnode : node ∈ nodes) :
    node.height < Value.heightItems items := by
  induction items generalizing index nodes with
  | nil =>
    simp only [ofItems, Except.ok.injEq] at h
    subst h
    simp at hnode
  | cons item rest ih =>
    simp only [ofItems] at h
    split at h
    · cases h
    · rename_i first hfirst
      split at h
      · rename_i others hothers
        simp only [Except.ok.injEq] at h
        subst h
        simp only [Value.heightItems]
        rcases List.mem_cons.mp hnode with rfl | hnode
        · have := height_lt_of_ofValue? hfirst
          omega
        · have := ih hothers hnode
          omega
      · cases h

/-- Children lie lower than their parent. -/
theorem height_lt_of_mem_children {node child : Declaration} (h : child ∈ node.children) :
    child.height < node.height := by
  unfold children at h
  split at h
  · have hraw : (node.get "children").height ≤ node.height := Value.height_get_le _ _
    cases hlist : node.childList with
    | error e => simp [hlist] at h
    | ok nodes =>
      rw [hlist] at h
      dsimp only at h
      unfold childList at hlist
      dsimp only at hlist
      split at hlist
      · rename_i single hsingle
        simp only [Except.ok.injEq] at hlist
        subst hlist
        rw [List.mem_singleton] at h
        subst h
        have := height_lt_of_ofValue? hsingle
        omega
      · split at hlist
        · cases hlist
        · rename_i items hitems
          split at hlist
          · rename_i found hfound
            simp only [Except.ok.injEq] at hlist
            subst hlist
            have hlt := height_lt_of_ofItems hfound h
            have hle : Value.heightItems items ≤ (node.get "children").height := by
              revert hitems
              cases node.get "children" <;> simp [Value.items?, Value.height]
              all_goals
                intro heq
                subst heq
                omega
            omega
          · cases hlist
  · simp at h

end Declaration

end CaptureForest
