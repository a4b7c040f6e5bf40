import CaptureForest.Proofs.CompileOrder
import CaptureForest.Proofs.Documents
import CaptureForest.Proofs.Spelling

/-!
# Loaded declarations

References are resolved on the way through a document, before any declaration is read
from it.  The declarations that are read from what was loaded are those of the
document, one for one: every attribute has its value as it stands there, but for a
reference in a slot for a callable, and but for children, of which the same holds.

The way through the document looks at names as they are spelled, and the declarations
have their attributes under keywords.  In what files hold both agree, since a text there
is a string.  So nothing else in a document has a part in loading: it loads just as
what is left when all other attributes are dropped, and from every catalog that
answers its references alike.
-/

namespace CaptureForest

/-! ### Names in a document -/

namespace Keyword

variable {key : Value}

theorem isWord_attributeKey_of_isDocument (hkey : key.isDocument = true) {word : String}
    (hword : word ∈ recognized) : (attributeKey key).isWord word = (spelled key == word) :=
  isWord_attributeKey_of_text hword (Value.eq_str_of_isDocument hkey)

theorem mem_recognized_of_mem_callables {word : String} (h : word ∈ callables) :
    word ∈ recognized := by
  revert word
  decide +kernel

/-- In a document, a name spells a slot for a callable if it is kept under one. -/
theorem isAmong_attributeKey_of_isDocument (hkey : key.isDocument = true) :
    (attributeKey key).isAmong callables = callables.contains (spelled key) := by
  rw [Bool.eq_iff_iff, Value.isAmong_iff, List.contains_iff_mem]
  have hspells : ∀ word ∈ callables,
      (attributeKey key).text? = some word ↔ spelled key = word := by
    intro word hword
    have h := isWord_attributeKey_of_isDocument hkey (mem_recognized_of_mem_callables hword)
    rwa [Value.isWord, Bool.eq_iff_iff, beq_iff_eq, beq_iff_eq] at h
  constructor
  · rintro ⟨word, hword, htext⟩
    rwa [(hspells word hword).mp htext]
  · intro hword
    exact ⟨spelled key, hword, (hspells _ hword).mpr rfl⟩

end Keyword

/-! ### What is loaded for a value -/

namespace Reference

mutual

/-- What is loaded where declarations are: lists item by item, maps entry by entry, and
what is neither stays. -/
inductive LoadsAs (catalog : Catalog) : Value → Value → Prop
  | items {items items' : List Value} (h : List.Forall₂ (LoadsAs catalog) items items') :
      LoadsAs catalog (.list items) (.list items')
  | entries {entries entries' : Pairs} (h : List.Forall₂ (EntryLoadsAs catalog) entries entries') :
      LoadsAs catalog (.map entries) (.map entries')
  | verbatim {v : Value} (hlist : ∀ items, v ≠ .list items)
      (hnode : Declaration.ofValue? v = none) : LoadsAs catalog v v

/-- An entry is loaded with its name as it is spelled. -/
inductive EntryLoadsAs (catalog : Catalog) : Value × Value → Value × Value → Prop
  | kept {key v v' : Value} (h : KeptAs catalog (Keyword.attributeKey key) v v') :
      EntryLoadsAs catalog (key, v) (key, v')

/-- What is loaded for the value of an attribute that is kept under a key: in a slot for
a callable, what a reference names; under `children`, what is loaded for them; all
else as it is. -/
inductive KeptAs (catalog : Catalog) : Value → Value → Value → Prop
  | reference {key v : Value} {text : String} (hkey : key.isAmong Keyword.callables = true)
      (hcolon : ':' ∈ text.toList) (h : resolve catalog text = .ok v) :
      KeptAs catalog key (.str text) v
  | children {key v v' : Value} (hkey : key.isWord "children" = true)
      (htuple : ∀ items, v ≠ .tuple items) (h : LoadsAs catalog v v') : KeptAs catalog key v v'
  | verbatim {key v : Value}
      (hslot : key.isAmong Keyword.callables = true → isReference v = false)
      (hchildren : key.isWord "children" = false) : KeptAs catalog key v v

end

variable {catalog : Catalog}

/-- Entries that are kept under one key are loaded alike. -/
theorem KeptAs.of_same {key other v v' : Value} (h : KeptAs catalog key v v')
    (hsame : other.same key = true) : KeptAs catalog other v v' := by
  have hslot := Value.isAmong_of_same hsame Keyword.callables
  have hword := Value.isWord_of_same hsame "children"
  cases h with
  | reference hkey hcolon h => exact .reference (hslot.trans hkey) hcolon h
  | children hkey htuple h => exact .children (hword.trans hkey) htuple h
  | verbatim hkept hchildren =>
      exact .verbatim (fun hother => hkept (hslot.symm.trans hother)) (hword.trans hchildren)

theorem KeptAs.eq_of_isWord {key v v' : Value} (h : KeptAs catalog key v v') {word : String}
    (hkey : key.isWord word = true) (hslot : word ∉ Keyword.callables)
    (hchildren : word ≠ "children") : v' = v := by
  cases h with
  | reference hcallable =>
      obtain ⟨slot, hmem, htext⟩ := (Value.isAmong_iff _ _).mp hcallable
      rw [beq_iff_eq.mp hkey] at htext
      rw [Option.some.inj htext] at hslot
      exact absurd hmem hslot
  | children hword =>
      rw [Value.not_isWord_of_isWord hkey hchildren] at hword
      cases hword
  | verbatim => rfl

theorem KeptAs.children_of_isWord {key v v' : Value} (h : KeptAs catalog key v v')
    (hkey : key.isWord "children" = true) : LoadsAs catalog v v' ∧ ∀ items, v ≠ .tuple items := by
  cases h with
  | reference hcallable =>
      obtain ⟨slot, hmem, htext⟩ := (Value.isAmong_iff _ _).mp hcallable
      rw [beq_iff_eq.mp hkey] at htext
      rw [← Option.some.inj htext] at hmem
      exact absurd hmem (by decide +kernel)
  | children _ htuple h => exact ⟨h, htuple⟩
  | verbatim _ hchildren =>
      rw [hkey] at hchildren
      cases hchildren

/-- What the way through a document makes of the value of an entry. -/
def resolveEntry (catalog : Catalog) (k v : Value) : Except Fault Value :=
  if Keyword.callables.contains (Keyword.spelled k) && isReference v then resolveValue catalog v
  else if Keyword.spelled k == "children" then resolveIn catalog v
  else .ok v

theorem resolvePairs_cons (catalog : Catalog) (k v : Value) (rest : Pairs) :
    resolvePairs catalog ((k, v) :: rest) =
      match resolveEntry catalog k v with
      | .error e => .error e
      | .ok v =>
        match resolvePairs catalog rest with
        | .ok rest => .ok ((k, v) :: rest)
        | .error e => .error e :=
  rfl

section Entry

variable {k : Value} (hk : k.isDocument = true)

include hk

theorem resolveEntry_of_reference (hslot : (Keyword.attributeKey k).isAmong Keyword.callables = true)
    {text : String} (hcolon : ':' ∈ text.toList) :
    resolveEntry catalog k (.str text) = resolve catalog text := by
  have hreference : isReference (.str text) = true := List.contains_iff_mem.mpr hcolon
  rw [Keyword.isAmong_attributeKey_of_isDocument hk] at hslot
  rw [resolveEntry, hslot, hreference, Bool.true_and, if_pos rfl]
  rfl

theorem resolveEntry_of_children (hword : (Keyword.attributeKey k).isWord "children" = true)
    (v : Value) : resolveEntry catalog k v = resolveIn catalog v := by
  rw [Keyword.isWord_attributeKey_of_isDocument hk Keyword.children_mem_recognized] at hword
  have hslot : Keyword.callables.contains (Keyword.spelled k) = false := by
    rw [beq_iff_eq.mp hword]
    decide +kernel
  rw [resolveEntry, hslot, hword, Bool.false_and, if_neg Bool.false_ne_true, if_pos rfl]

theorem resolveEntry_of_verbatim {v : Value}
    (hslot : (Keyword.attributeKey k).isAmong Keyword.callables = true → isReference v = false)
    (hchildren : (Keyword.attributeKey k).isWord "children" = false) :
    resolveEntry catalog k v = .ok v := by
  rw [Keyword.isWord_attributeKey_of_isDocument hk Keyword.children_mem_recognized] at hchildren
  rw [Keyword.isAmong_attributeKey_of_isDocument hk] at hslot
  rw [resolveEntry, hchildren, if_neg, if_neg Bool.false_ne_true]
  rw [Bool.and_eq_true, not_and, Bool.not_eq_true]
  exact hslot

end Entry

/-- An entry has a reference in a slot for a callable, or children, or what stays. -/
theorem entry_cases (key v : Value) :
    (key.isAmong Keyword.callables = true ∧ ∃ text, v = .str text ∧ ':' ∈ text.toList) ∨
      key.isWord "children" = true ∨
        ((key.isAmong Keyword.callables = true → isReference v = false) ∧
          key.isWord "children" = false) := by
  cases hchildren : key.isWord "children" with
  | true => exact .inr (.inl rfl)
  | false =>
      cases hreference : isReference v with
      | false => exact .inr (.inr ⟨fun _ => rfl, rfl⟩)
      | true =>
          obtain ⟨text, rfl⟩ := eq_str_of_isReference hreference
          cases hslot : key.isAmong Keyword.callables with
          | false => exact .inr (.inr ⟨nofun, rfl⟩)
          | true => exact .inl ⟨rfl, text, rfl, List.contains_iff_mem.mp hreference⟩

mutual

/-- What the way through a document makes of a value. -/
theorem loadsAs_of_resolveIn : ∀ {v v' : Value}, v.isDocument = true →
    resolveIn catalog v = .ok v' → LoadsAs catalog v v'
  | .list items, v', hv, h => by
    rw [resolveIn] at h
    cases hitems : resolveItems catalog items with
    | error e => simp [hitems] at h
    | ok items' =>
        rw [hitems] at h
        obtain rfl := Except.ok.inj h
        exact .items (itemsLoadAs_of_resolveItems hv hitems)
  | .map pairs, v', hv, h => by
    rw [resolveIn] at h
    cases hpairs : resolvePairs catalog pairs with
    | error e => simp [hpairs] at h
    | ok pairs' =>
        rw [hpairs] at h
        obtain rfl := Except.ok.inj h
        exact .entries (entriesLoadAs_of_resolvePairs hv hpairs)
  | .none, v', _, h | .bool _, v', _, h | .int _, v', _, h | .float _, v', _, h
  | .str _, v', _, h | .bytes _, v', _, h | .foreign .., v', _, h => by
    obtain rfl := Except.ok.inj h
    exact .verbatim nofun rfl

theorem itemsLoadAs_of_resolveItems : ∀ {items items' : List Value},
    Value.areDocuments items = true → resolveItems catalog items = .ok items' →
      List.Forall₂ (LoadsAs catalog) items items'
  | [], items', _, h => by
    obtain rfl := Except.ok.inj h
    exact .nil
  | item :: rest, items', hitems, h => by
    obtain ⟨hitem, hrest⟩ := (Value.areDocuments_cons_iff item rest).mp hitems
    rw [resolveItems] at h
    cases hfirst : resolveIn catalog item with
    | error e => simp [hfirst] at h
    | ok item' =>
        cases hothers : resolveItems catalog rest with
        | error e => simp [hfirst, hothers] at h
        | ok rest' =>
            simp only [hfirst, hothers] at h
            obtain rfl := Except.ok.inj h
            refine .cons ?_ (itemsLoadAs_of_resolveItems hrest hothers)
            rcases hitem with hitem | ⟨parts, rfl, -⟩
            · exact loadsAs_of_resolveIn hitem hfirst
            · obtain rfl := Except.ok.inj hfirst
              exact .verbatim nofun rfl

theorem entriesLoadAs_of_resolvePairs : ∀ {pairs pairs' : Pairs},
    Value.areEntries pairs = true → resolvePairs catalog pairs = .ok pairs' →
      List.Forall₂ (EntryLoadsAs catalog) pairs pairs'
  | [], pairs', _, h => by
    obtain rfl := Except.ok.inj h
    exact .nil
  | (k, v) :: rest, pairs', hpairs, h => by
    obtain ⟨⟨hk, hv⟩, hrest⟩ := (Value.areEntries_cons_iff k v rest).mp hpairs
    rw [resolvePairs_cons] at h
    cases hentry : resolveEntry catalog k v with
    | error e => simp [hentry] at h
    | ok v' =>
        cases hothers : resolvePairs catalog rest with
        | error e => simp [hentry, hothers] at h
        | ok rest' =>
            simp only [hentry, hothers] at h
            obtain rfl := Except.ok.inj h
            refine .cons (.kept ?_) (entriesLoadAs_of_resolvePairs hrest hothers)
            rcases entry_cases (Keyword.attributeKey k) v with
              ⟨hslot, text, rfl, hcolon⟩ | hchildren | ⟨hslot, hchildren⟩
            · rw [resolveEntry_of_reference hk hslot hcolon] at hentry
              exact .reference hslot hcolon hentry
            · rw [resolveEntry_of_children hk hchildren] at hentry
              refine .children hchildren ?_ (loadsAs_of_resolveIn hv hentry)
              rintro parts rfl
              cases hv
            · rw [resolveEntry_of_verbatim hk hslot hchildren] at hentry
              obtain rfl := Except.ok.inj hentry
              exact .verbatim hslot hchildren

end

end Reference

/-! ### Declarations of what was loaded -/

/-- Attributes under the same key, the second with what is loaded for the first. -/
structure Pairs.LoadsAs (catalog : Catalog) (p p' : Value × Value) : Prop where
  key : p'.1 = p.1
  value : Reference.KeptAs catalog p.1 p.2 p'.2

/-- The second declaration is what the first one is loaded as: it has the same name, and
attributes under the same keys in the same order. -/
structure Declaration.LoadsAs (catalog : Catalog) (d d' : Declaration) : Prop where
  name : d'.name = d.name
  attributes : List.Forall₂ (Pairs.LoadsAs catalog) d.attributes d'.attributes

structure Visit.LoadsAs (catalog : Catalog) (u u' : Visit) : Prop where
  node : u.node.LoadsAs catalog u'.node
  ancestors : List.Forall₂ (Declaration.LoadsAs catalog) u.ancestors u'.ancestors

variable {catalog : Catalog}

theorem Pairs.insert_loadsAs {ps qs : Pairs} (h : List.Forall₂ (LoadsAs catalog) ps qs)
    {key v v' : Value} (hv : Reference.KeptAs catalog key v v') :
    List.Forall₂ (LoadsAs catalog) (insert key v ps) (insert key v' qs) := by
  induction h with
  | nil => exact .cons ⟨rfl, hv⟩ .nil
  | @cons p q rest others hfirst hrest ih =>
      obtain ⟨k, u⟩ := p
      obtain ⟨l, x⟩ := q
      obtain rfl : l = k := hfirst.key
      rw [insert, insert]
      split
      · rename_i hsame
        exact .cons ⟨rfl, hv.of_same hsame⟩ hrest
      · exact .cons hfirst ih

theorem Pairs.get_children_loadsAs {ps qs : Pairs} (h : List.Forall₂ (LoadsAs catalog) ps qs) :
    Reference.LoadsAs catalog (get "children" ps) (get "children" qs) ∧
      ∀ items, get "children" ps ≠ .tuple items := by
  induction h with
  | nil => exact ⟨.verbatim nofun rfl, nofun⟩
  | @cons p q rest others hfirst _ ih =>
      obtain ⟨k, v⟩ := p
      obtain ⟨l, v'⟩ := q
      obtain rfl : l = k := hfirst.key
      rw [get, lookup?, get, lookup?]
      split
      · rename_i hword
        exact hfirst.value.children_of_isWord hword
      · exact ih

namespace Declaration

theorem accept_loadsAs {d d' : Declaration} (h : d.LoadsAs catalog d') {e e' : Value × Value}
    (he : Reference.EntryLoadsAs catalog e e') : (d.accept e).LoadsAs catalog (d'.accept e') := by
  obtain ⟨hkept⟩ := he
  rw [accept, accept]
  dsimp only
  split
  · rename_i hname
    exact ⟨hkept.eq_of_isWord hname (by decide) (by decide), h.attributes⟩
  · exact ⟨h.name, Pairs.insert_loadsAs h.attributes hkept⟩

theorem ofMapping_loadsAs {entries entries' : Pairs}
    (h : List.Forall₂ (Reference.EntryLoadsAs catalog) entries entries') :
    (ofMapping entries).LoadsAs catalog (ofMapping entries') := by
  have hfold : ∀ d d' : Declaration, d.LoadsAs catalog d' →
      (entries.foldl accept d).LoadsAs catalog (entries'.foldl accept d') := by
    induction h with
    | nil => exact fun _ _ hd => hd
    | cons he _ ih =>
        intro d d' hd
        rw [List.foldl_cons, List.foldl_cons]
        exact ih _ _ (accept_loadsAs hd he)
  exact hfold _ _ ⟨rfl, .nil⟩

/-- A value and what it is loaded as both describe a declaration, or neither does. -/
theorem ofValue?_loadsAs {v v' : Value} (h : Reference.LoadsAs catalog v v') :
    (∃ d d', ofValue? v = some d ∧ ofValue? v' = some d' ∧ d.LoadsAs catalog d') ∨
      (ofValue? v = none ∧ ofValue? v' = none) := by
  cases h with
  | items _ => exact .inr ⟨rfl, rfl⟩
  | entries h => exact .inl ⟨_, _, rfl, rfl, ofMapping_loadsAs h⟩
  | verbatim _ hnode => exact .inr ⟨hnode, hnode⟩

theorem ofItems_loadsAs {items items' : List Value}
    (h : List.Forall₂ (Reference.LoadsAs catalog) items items') (index : Nat) :
    (∃ nodes nodes', ofItems index items = .ok nodes ∧ ofItems index items' = .ok nodes' ∧
        List.Forall₂ (LoadsAs catalog) nodes nodes') ∨
      ((∃ fault, ofItems index items = .error fault) ∧
        ∃ fault, ofItems index items' = .error fault) := by
  induction h generalizing index with
  | nil => exact .inl ⟨[], [], rfl, rfl, .nil⟩
  | @cons item item' rest rest' hitem _ ih =>
      simp only [ofItems]
      rcases ofValue?_loadsAs hitem with ⟨d, d', hd, hd', hloads⟩ | ⟨hnone, hnone'⟩
      · rcases ih (index + 1) with ⟨nodes, nodes', hnodes, hnodes', hall⟩ | ⟨⟨f, hf⟩, f', hf'⟩
        · left
          exact ⟨d :: nodes, d' :: nodes', by simp [hd, hnodes], by simp [hd', hnodes'],
            .cons hloads hall⟩
        · right
          exact ⟨⟨f, by simp [hd, hf]⟩, f', by simp [hd', hf']⟩
      · right
        exact ⟨⟨(index, item), by simp only [hnone]⟩, (index, item'), by simp only [hnone']⟩

theorem children_of_ofValue? {d child : Declaration}
    (h : ofValue? (d.get "children") = some child) : d.children = [child] := by
  obtain ⟨hchildren, hlist⟩ := hasChildren_of_ofValue? h
  exact children_eq_of_childList hchildren hlist

theorem children_of_ofItems {d : Declaration} {items : List Value}
    (hitems : (d.get "children").items? = some items) {nodes : List Declaration}
    (h : ofItems 0 items = .ok nodes) : d.children = nodes := by
  have hhas := hasChildren_of_items? hitems
  have hlist : d.childList = .ok nodes := by
    simp only [childList, ofValue?_of_items? hitems, hitems, h]
  cases items with
  | nil =>
      obtain rfl := Except.ok.inj h
      exact children_of_not_hasChildren hhas
  | cons item rest => exact children_eq_of_childList hhas hlist

theorem children_of_misfit {d : Declaration} {e : CaptureError} (h : ChildrenFault d e) :
    d.children = [] := by
  rw [children, (childList_eq_error_iff d e).mpr h]
  exact ite_self _

theorem children_of_ofItems_error {d : Declaration} {items : List Value}
    (hitems : (d.get "children").items? = some items) {fault : Nat × Value}
    (h : ofItems 0 items = .error fault) : d.children = [] := by
  obtain ⟨before, -, hmisfit⟩ := firstMisfit_of_ofItems h
  exact children_of_misfit (.item hitems hmisfit)

/-- The children are those of the document, one for one. -/
theorem children_loadsAs {d d' : Declaration} (h : d.LoadsAs catalog d') :
    List.Forall₂ (LoadsAs catalog) d.children d'.children := by
  obtain ⟨hchildren, htuple⟩ := Pairs.get_children_loadsAs h.attributes
  change Reference.LoadsAs catalog (d.get "children") (d'.get "children") at hchildren
  change ∀ items, d.get "children" ≠ .tuple items at htuple
  generalize hv : d.get "children" = v at hchildren htuple
  generalize hv' : d'.get "children" = v' at hchildren
  cases hchildren with
  | @items items items' hitems =>
      have hd : (d.get "children").items? = some items := by rw [hv, Value.items?]
      have hd' : (d'.get "children").items? = some items' := by rw [hv', Value.items?]
      rcases ofItems_loadsAs hitems 0 with ⟨nodes, nodes', hok, hok', hall⟩ | ⟨⟨f, hf⟩, f', hf'⟩
      · rw [children_of_ofItems hd hok, children_of_ofItems hd' hok']
        exact hall
      · rw [children_of_ofItems_error hd hf, children_of_ofItems_error hd' hf']
        exact .nil
  | entries hentries =>
      rw [children_of_ofValue? (congrArg ofValue? hv), children_of_ofValue? (congrArg ofValue? hv')]
      exact .cons (ofMapping_loadsAs hentries) .nil
  | verbatim hlist hnode =>
      have hitems : v.items? = none := by
        cases v with
        | list items => exact absurd rfl (hlist items)
        | tuple items => exact absurd rfl (htuple items)
        | _ => rfl
      have hd : d.children = [] := children_of_misfit (.kind (hv ▸ hnode) (hv ▸ hitems))
      have hd' : d'.children = [] := children_of_misfit (.kind (hv' ▸ hnode) (hv' ▸ hitems))
      rw [hd, hd']
      exact .nil

theorem flatMap_visits_loadsAs {nodes nodes' ancestors ancestors' : List Declaration}
    (hall : List.Forall₂ (LoadsAs catalog) nodes nodes')
    (h : ∀ d ∈ nodes, ∀ d' : Declaration, d.LoadsAs catalog d' →
      List.Forall₂ (Visit.LoadsAs catalog) (d.visits ancestors) (d'.visits ancestors')) :
    List.Forall₂ (Visit.LoadsAs catalog) (nodes.flatMap (visits ancestors))
      (nodes'.flatMap (visits ancestors')) := by
  induction hall with
  | nil => exact .nil
  | @cons d d' rest rest' hd _ ih =>
      rw [List.flatMap_cons, List.flatMap_cons]
      apply List.rel_append
      · exact h d List.mem_cons_self d' hd
      · exact ih fun other hother => h other (List.mem_cons_of_mem d hother)

/-- Below related ancestors, the walks through a declaration and through what it is
loaded as meet the same declarations. -/
theorem visits_loadsAs {d d' : Declaration} (h : d.LoadsAs catalog d')
    {ancestors ancestors' : List Declaration}
    (hancestors : List.Forall₂ (LoadsAs catalog) ancestors ancestors') :
    List.Forall₂ (Visit.LoadsAs catalog) (d.visits ancestors) (d'.visits ancestors') := by
  induction d using Declaration.induction generalizing d' ancestors ancestors' with
  | step d ih =>
      have hlineage := List.rel_append hancestors (.cons h .nil)
      rw [visits_eq, visits_eq]
      refine .cons ⟨h, hancestors⟩ ?_
      apply flatMap_visits_loadsAs (children_loadsAs h)
      exact fun child hchild child' hloads => ih child hchild hloads hlineage

end Declaration

theorem Forest.visits_loadsAs {v v' : Value} {items : List Value} (hv : v = .list items)
    (h : Reference.LoadsAs catalog v v') :
    List.Forall₂ (Visit.LoadsAs catalog) (visits v) (visits v') := by
  cases h with
  | @items items items' hitems =>
      rw [visits, visits, Declaration.ofForest, Declaration.ofForest, Value.items?, Value.items?]
      rcases Declaration.ofItems_loadsAs hitems 0 with
        ⟨nodes, nodes', hok, hok', hall⟩ | ⟨⟨f, hf⟩, f', hf'⟩
      · simp only [hok, hok']
        apply Declaration.flatMap_visits_loadsAs hall
        exact fun d _ d' hd => Declaration.visits_loadsAs hd .nil
      · simp only [hf, hf']
        exact .nil
  | entries _ => cases hv
  | verbatim hlist _ => exact absurd hv (hlist items)

/-- In whatever order a compilation takes what was loaded, it meets declarations of the
document. -/
theorem Forest.exists_visit_of_mem_compileOrder {v v' : Value}
    (h : List.Forall₂ (Visit.LoadsAs catalog) (visits v) (visits v')) (plan : Plan) {u' : Visit}
    (hu' : u' ∈ compileOrder plan v') : ∃ u ∈ visits v, u.LoadsAs catalog u' := by
  have hmem : u' ∈ visits v' := (compileOrder_perm plan v').mem_iff.mp hu'
  exact exists_related_of_mem h.flip hmem

/-! ### What has no part in loading -/

namespace Reference

/-- A document holds a reference in a slot for a callable of one of its declarations. -/
inductive Occurs (text : String) : Value → Prop
  | item {items : List Value} {v : Value} (hmem : v ∈ items) (h : Occurs text v) :
      Occurs text (.list items)
  | slot {entries : Pairs} {key : Value} (hmem : (key, .str text) ∈ entries)
      (hkey : (Keyword.attributeKey key).isAmong Keyword.callables = true)
      (hcolon : ':' ∈ text.toList) : Occurs text (.map entries)
  | child {entries : Pairs} {key v : Value} (hmem : (key, v) ∈ entries)
      (hkey : (Keyword.attributeKey key).isWord "children" = true) (h : Occurs text v) :
      Occurs text (.map entries)

mutual

/-- What is left of a document when all attributes are dropped but slots for callables
and children. -/
def skeleton : Value → Value
  | .list items => .list (skeletonItems items)
  | .map pairs => .map (skeletonPairs pairs)
  | v => v

def skeletonItems : List Value → List Value
  | [] => []
  | item :: rest => skeleton item :: skeletonItems rest

def skeletonPairs : List (Value × Value) → List (Value × Value)
  | [] => []
  | (k, v) :: rest =>
    if (Keyword.attributeKey k).isAmong Keyword.callables then (k, v) :: skeletonPairs rest
    else if (Keyword.attributeKey k).isWord "children" then (k, skeleton v) :: skeletonPairs rest
    else skeletonPairs rest

end

section Catalogs

variable {catalog catalog' : Catalog}

mutual

/-- From two catalogs that answer its references alike a document is loaded alike. -/
theorem resolveIn_congr : ∀ {v : Value}, v.isDocument = true →
    (∀ text, Occurs text v → resolve catalog text = resolve catalog' text) →
      resolveIn catalog v = resolveIn catalog' v
  | .list items, hv, h => by
    rw [resolveIn, resolveIn, resolveItems_congr hv fun item hitem text htext =>
      h text (.item hitem htext)]
  | .map pairs, hv, h => by
    rw [resolveIn, resolveIn, resolvePairs_congr hv h fun _ hmem => hmem]
  | .none, _, _ | .bool _, _, _ | .int _, _, _ | .float _, _, _ | .str _, _, _
  | .bytes _, _, _ | .foreign .., _, _ => rfl

theorem resolveItems_congr : ∀ {items : List Value}, Value.areDocuments items = true →
    (∀ item ∈ items, ∀ text, Occurs text item → resolve catalog text = resolve catalog' text) →
      resolveItems catalog items = resolveItems catalog' items
  | [], _, _ => rfl
  | item :: rest, hitems, h => by
    obtain ⟨hitem, hrest⟩ := (Value.areDocuments_cons_iff item rest).mp hitems
    have hfirst : resolveIn catalog item = resolveIn catalog' item := by
      rcases hitem with hitem | ⟨parts, rfl, -⟩
      · exact resolveIn_congr hitem (h item List.mem_cons_self)
      · rfl
    rw [resolveItems, resolveItems, hfirst, resolveItems_congr hrest fun other hother =>
      h other (List.mem_cons_of_mem item hother)]

theorem resolvePairs_congr {entries : Pairs} : ∀ {pairs : Pairs}, Value.areEntries pairs = true →
    (∀ text, Occurs text (.map entries) → resolve catalog text = resolve catalog' text) →
      (∀ p ∈ pairs, p ∈ entries) → resolvePairs catalog pairs = resolvePairs catalog' pairs
  | [], _, _, _ => rfl
  | (k, v) :: rest, hpairs, h, hmem => by
    obtain ⟨⟨hk, hv⟩, hrest⟩ := (Value.areEntries_cons_iff k v rest).mp hpairs
    have hentry : resolveEntry catalog k v = resolveEntry catalog' k v := by
      have hkv := hmem (k, v) List.mem_cons_self
      rcases entry_cases (Keyword.attributeKey k) v with
        ⟨hslot, text, rfl, hcolon⟩ | hchildren | ⟨hslot, hchildren⟩
      · rw [resolveEntry_of_reference hk hslot hcolon, resolveEntry_of_reference hk hslot hcolon]
        exact h text (.slot hkv hslot hcolon)
      · rw [resolveEntry_of_children hk hchildren, resolveEntry_of_children hk hchildren]
        exact resolveIn_congr hv fun text htext => h text (.child hkv hchildren htext)
      · rw [resolveEntry_of_verbatim hk hslot hchildren, resolveEntry_of_verbatim hk hslot hchildren]
    rw [resolvePairs_cons, resolvePairs_cons, hentry, resolvePairs_congr hrest h fun p hp =>
      hmem p (List.mem_cons_of_mem _ hp)]

end

end Catalogs

mutual

theorem resolveIn_skeleton : ∀ {v : Value}, v.isDocument = true →
    resolveIn catalog (skeleton v) = (resolveIn catalog v).map skeleton
  | .list items, hv => by
    rw [skeleton, resolveIn, resolveIn, resolveItems_skeleton hv]
    cases resolveItems catalog items <;> rfl
  | .map pairs, hv => by
    rw [skeleton, resolveIn, resolveIn, resolvePairs_skeleton hv]
    cases resolvePairs catalog pairs <;> rfl
  | .none, _ | .bool _, _ | .int _, _ | .float _, _ | .str _, _ | .bytes _, _ | .foreign .., _ => rfl

theorem resolveItems_skeleton : ∀ {items : List Value}, Value.areDocuments items = true →
    resolveItems catalog (skeletonItems items) = (resolveItems catalog items).map skeletonItems
  | [], _ => rfl
  | item :: rest, hitems => by
    obtain ⟨hitem, hrest⟩ := (Value.areDocuments_cons_iff item rest).mp hitems
    have hfirst : resolveIn catalog (skeleton item) = (resolveIn catalog item).map skeleton := by
      rcases hitem with hitem | ⟨parts, rfl, -⟩
      · exact resolveIn_skeleton hitem
      · rfl
    rw [skeletonItems, resolveItems, resolveItems, hfirst, resolveItems_skeleton hrest]
    cases resolveIn catalog item with
    | error e => rfl
    | ok item' => cases resolveItems catalog rest <;> rfl

theorem resolvePairs_skeleton : ∀ {pairs : Pairs}, Value.areEntries pairs = true →
    resolvePairs catalog (skeletonPairs pairs) = (resolvePairs catalog pairs).map skeletonPairs
  | [], _ => rfl
  | (k, v) :: rest, hpairs => by
    obtain ⟨⟨hk, hv⟩, hrest⟩ := (Value.areEntries_cons_iff k v rest).mp hpairs
    have ih := resolvePairs_skeleton hrest
    rw [skeletonPairs, resolvePairs_cons]
    split
    · rename_i hslot
      -- a slot for a callable is kept with its value
      rw [resolvePairs_cons, ih]
      cases resolveEntry catalog k v with
      | error e => rfl
      | ok v' => cases resolvePairs catalog rest <;> simp [Except.map, skeletonPairs, hslot]
    · rename_i hslot
      split
      · rename_i hchildren
        rw [resolvePairs_cons, ih, resolveEntry_of_children hk hchildren,
          resolveEntry_of_children hk hchildren, resolveIn_skeleton hv]
        cases resolveIn catalog v with
        | error e => rfl
        | ok v' =>
            cases resolvePairs catalog rest <;> simp [Except.map, skeletonPairs, hslot, hchildren]
      · rename_i hchildren
        have hkept : resolveEntry catalog k v = .ok v :=
          resolveEntry_of_verbatim hk (fun h => absurd h hslot) (Bool.not_eq_true _ ▸ hchildren)
        rw [ih, hkept]
        cases resolvePairs catalog rest <;> simp [Except.map, skeletonPairs, hslot, hchildren]

end

end Reference

/-! ### Files of declarations -/

namespace Load

variable {yaml : YamlReader} {tree : FileTree} {path : String} {nodes : List Value} {loaded : Value}

theorem exists_items_of_declarations (h : declarations yaml catalog tree path = .ok loaded) :
    ∃ nodes, items yaml tree path = .ok nodes := by
  cases hitems : items yaml tree path with
  | ok nodes => exact ⟨nodes, rfl⟩
  | error f =>
      rw [declarations_of_items_error hitems] at h
      cases h

/-- References are resolved just where declarations are read.  If the declarations of a
file are loaded, the walk through them meets those of the document one for one, with
references resolved in slots for callables and nothing else changed, and so does a
compilation in its order.  Whether they are loaded, and as what, is decided by what is
left of the document when all other attributes are dropped, and by what the catalog
answers to the references in slots. -/
theorem resolves_where_read (catalog : Catalog) (hyaml : GivesDocuments yaml)
    (hitems : items yaml tree path = .ok nodes) :
    (∀ loaded, declarations yaml catalog tree path = .ok loaded →
      Reference.LoadsAs catalog (.list nodes) loaded ∧
        List.Forall₂ (Visit.LoadsAs catalog) (Forest.visits (.list nodes))
          (Forest.visits loaded) ∧
        ∀ (plan : Plan), ∀ u' ∈ Forest.compileOrder plan loaded,
          ∃ u ∈ Forest.visits (.list nodes), u.LoadsAs catalog u') ∧
      Reference.resolveIn catalog (Reference.skeleton (.list nodes)) =
        (declarations yaml catalog tree path).map Reference.skeleton ∧
      ∀ catalog' : Catalog,
        (∀ text, Reference.Occurs text (.list nodes) →
          Reference.resolve catalog text = Reference.resolve catalog' text) →
        declarations yaml catalog tree path = declarations yaml catalog' tree path := by
  have hdocument := isDocument_of_items hyaml hitems
  refine ⟨?_, ?_, ?_⟩
  · intro loaded h
    rw [declarations_of_items hitems] at h
    have hloads := Reference.loadsAs_of_resolveIn hdocument h
    have hvisits := Forest.visits_loadsAs rfl hloads
    exact ⟨hloads, hvisits, fun plan _ => Forest.exists_visit_of_mem_compileOrder hvisits plan⟩
  · rw [declarations_of_items hitems]
    exact Reference.resolveIn_skeleton hdocument
  · intro catalog' hanswers
    rw [declarations_of_items hitems, declarations_of_items hitems,
      Reference.resolveIn_congr hdocument hanswers]

/-- A group with a single child, whose hook is a reference and whose template reads like
one. -/
theorem resolves_where_read_of_child :
    let text :=
      "- :keys: g\n  children:\n    hook: m:f\n    template: a:b\n"
    let tree := FileTree.ofFiles [("a.yaml", text.toUTF8.toList)]
    let catalog : Catalog := [⟨"m", [.mk "f" (.callable (.function "m" "f")) []]⟩]
    ∃ nodes loaded, GivesDocuments Yaml.reader ∧ items Yaml.reader tree "a.yaml" = .ok nodes ∧
      declarations Yaml.reader catalog tree "a.yaml" = .ok loaded ∧
      List.Forall₂ (Visit.LoadsAs catalog) (Forest.visits (.list nodes)) (Forest.visits loaded) ∧
      (Forest.visits loaded).map (fun u =>
        ((u.node.get "hook").isCallable, (u.node.get "template").text?)) =
          [(false, none), (true, some "a:b")] := by
  intro text tree catalog
  have hvisits : ((declarations Yaml.reader catalog tree "a.yaml").toOption.map fun loaded =>
      (Forest.visits loaded).map fun u =>
        ((u.node.get "hook").isCallable, (u.node.get "template").text?)) =
      some [(false, none), (true, some "a:b")] := by decide +kernel
  obtain ⟨loaded, hloaded, hshown⟩ := Option.map_eq_some_iff.mp hvisits
  cases h : declarations Yaml.reader catalog tree "a.yaml" with
  | error f =>
      rw [h] at hloaded
      cases hloaded
  | ok v =>
      rw [h] at hloaded
      obtain rfl : v = loaded := Option.some.inj hloaded
      obtain ⟨nodes, hitems⟩ := exists_items_of_declarations h
      have hmeets := resolves_where_read catalog givesDocuments_reader hitems
      exact ⟨nodes, v, givesDocuments_reader, hitems, rfl, (hmeets.1 v h).2.1, hshown⟩

end Load

end CaptureForest
