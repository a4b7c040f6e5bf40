import CaptureForest.Proofs.Compilation
import CaptureForest.Proofs.Mirroring
import CaptureForest.Proofs.Naming
import Mathlib.Logic.Relation

/-!
# Spellings of a forest

A forest can be written down in many ways: the names of attributes have several
spellings, a declaration may be a map or already a declaration, a single child
needs no list, and lists and tuples are one.  Rewriting a forest from one way to
another, at any depth, keeps the declarations up to their children as they are read,
so it changes neither what the forest compiles to, nor the error, nor the report.
-/

namespace CaptureForest

/-- What a value is read as. -/
inductive Reading where
  | forest
  | children
  | declaration
deriving DecidableEq

/-- One step from one spelling to another: the name of an attribute in another
spelling, the declaration for a map that describes it, a single child for a list of
it, a tuple for a list; or such a step in an item of a list, in a single child, or in
the children of a map or of a declaration. -/
inductive Respells : Reading → Value → Value → Prop
  | name {word : String} {k k' v : Value} {before after : Pairs}
      (hword : word ∈ Keyword.recognized) (hk : Keyword.IsSpelling word k.plain)
      (hk' : Keyword.IsSpelling word k'.plain) :
      Respells .declaration (.map (before ++ (k, v) :: after)) (.map (before ++ (k', v) :: after))
  | coerce (entries : Pairs) :
      Respells .declaration (.map entries) (Declaration.ofMapping entries).toValue
  | single {v : Value} {d : Declaration} (h : Declaration.ofValue? v = some d) :
      Respells .children (.list [v]) v
  | sequence {reading : Reading} (hreading : reading ≠ .declaration) (items : List Value) :
      Respells reading (.list items) (.tuple items)
  | item {reading : Reading} {v v' : Value} {before after : List Value}
      (hreading : reading ≠ .declaration) (h : Respells .declaration v v') :
      Respells reading (.list (before ++ v :: after)) (.list (before ++ v' :: after))
  | child {v v' : Value} (h : Respells .declaration v v') : Respells .children v v'
  | entry {k v v' : Value} {before after : Pairs} (hk : Keyword.IsSpelling "children" k.plain)
      (h : Respells .children v v') :
      Respells .declaration (.map (before ++ (k, v) :: after)) (.map (before ++ (k, v') :: after))
  | field {name v v' : Value} {before after : Pairs} (h : Respells .children v v') :
      Respells .declaration (.node name (before ++ (.str "children", v) :: after))
        (.node name (before ++ (.str "children", v') :: after))

/-! ### Reading alike -/

/-- Two readings give the same fault, or declarations that mirror each other. -/
inductive ReadAlike {ε : Type} : Except ε (List Declaration) → Except ε (List Declaration) → Prop
  | error (e : ε) : ReadAlike (.error e) (.error e)
  | ok {nodes nodes' : List Declaration} (h : List.Forall₂ (Declaration.Mirrors .ok) nodes nodes') :
      ReadAlike (.ok nodes) (.ok nodes')

/-- Declarations with the values in place of their children have alike children. -/
def AlikeChildren (v v' : Value) : Prop :=
  ∀ d d' : Declaration, d.name = d'.name → d.get "children" = v → d'.get "children" = v' →
    d.hasChildren = d'.hasChildren ∧ ReadAlike d.childList d'.childList

def AlikeDeclaration (v v' : Value) : Prop :=
  ∃ d d', Declaration.ofValue? v = some d ∧ Declaration.ofValue? v' = some d' ∧ d.Mirrors .ok d'

/-- The values say the same as what they are read as. -/
def Alike : Reading → Value → Value → Prop
  | .forest, v, v' => ReadAlike (Declaration.ofForest v) (Declaration.ofForest v')
  | .children, v, v' => AlikeChildren v v'
  | .declaration, v, v' => AlikeDeclaration v v'

theorem ReadAlike.refl {ε : Type} (r : Except ε (List Declaration)) : ReadAlike r r := by
  cases r with
  | error e => exact .error e
  | ok nodes => exact .ok (List.forall₂_same.mpr fun d _ => .refl d)

theorem AlikeChildren.refl (v : Value) : AlikeChildren v v := by
  intro d d' hname hd hd'
  have hget : d.get "children" = d'.get "children" := hd.trans hd'.symm
  have hlist : d.childList = d'.childList := by
    rw [Declaration.childList, Declaration.childList, hget, hname]
  constructor
  · rw [Declaration.hasChildren, Declaration.hasChildren, Declaration.sets, Declaration.sets, hget]
  · rw [hlist]
    exact .refl _

namespace Declaration

theorem SameBut.mono {R S : Value → Value → Prop} (hRS : ∀ v w, R v w → S v w)
    {d d' : Declaration} (h : SameBut R d d') : SameBut S d d' where
  name := h.name
  attributes := h.attributes.imp fun _ _ hpair =>
    ⟨hpair.key, hpair.value, fun hchildren => hRS _ _ (hpair.children hchildren)⟩

theorem mirrors_of_sameBut {d d' : Declaration} (h : SameBut AlikeChildren d d') :
    d.Mirrors .ok d' := by
  have hchildren := Pairs.get_children_of_sameBut h.attributes (AlikeChildren.refl .none)
  obtain ⟨hhas, hlist⟩ := hchildren d d' h.name rfl rfl
  have hsame : SameButChildren d d' := h.mono fun _ _ _ => trivial
  cases hd : d.hasChildren with
  | false => exact .leaf hsame hd (hhas ▸ hd)
  | true =>
      have hd' : d'.hasChildren = true := hhas ▸ hd
      generalize hr : d.childList = r at hlist
      generalize hr' : d'.childList = r' at hlist
      cases hlist with
      | error e => exact .illShaped hsame hd hd' hr hr'
      | ok hnodes => exact .group hsame hd hd' hr rfl hr' hnodes

/-! ### Maps -/

variable {R : Value → Value → Prop}

theorem insert_sameBut {ps qs : Pairs} (h : List.Forall₂ (Pairs.SameBut R) ps qs) {key v w : Value}
    (hpair : Pairs.SameBut R (key, v) (key, w)) :
    List.Forall₂ (Pairs.SameBut R) (Pairs.insert key v ps) (Pairs.insert key w qs) := by
  induction h with
  | nil => exact .cons hpair .nil
  | @cons p q rest others hfirst hrest ih =>
      obtain ⟨k, u⟩ := p
      obtain ⟨l, x⟩ := q
      obtain rfl : k = l := hfirst.key
      rw [Pairs.insert, Pairs.insert]
      split
      · rename_i hsame
        have hword := Value.isWord_of_same hsame "children"
        refine .cons ⟨rfl, ?_, ?_⟩ hrest
        · intro hk
          exact hpair.value (hword ▸ hk)
        · intro hk
          exact hpair.children (hword ▸ hk)
      · exact .cons hfirst ih

/-- Entries of a map that are kept alike: under the same key, with the same value
except for children. -/
def AcceptedAlike (R : Value → Value → Prop) (e e' : Value × Value) : Prop :=
  Pairs.SameBut R (Keyword.attributeKey e.1, e.2) (Keyword.attributeKey e'.1, e'.2)

theorem accept_sameBut {d d' : Declaration} (h : SameBut R d d') {e e' : Value × Value}
    (he : AcceptedAlike R e e') : SameBut R (d.accept e) (d'.accept e') := by
  obtain ⟨k, v⟩ := e
  obtain ⟨k', w⟩ := e'
  unfold AcceptedAlike at he
  rw [accept, accept]
  generalize Keyword.attributeKey k = key at he
  generalize Keyword.attributeKey k' = key' at he
  obtain rfl : key = key' := he.key
  split
  · rename_i hname
    have hvalue : v = w := he.value (Value.not_isWord_of_isWord hname (by decide))
    exact ⟨hvalue, h.attributes⟩
  · exact ⟨h.name, insert_sameBut h.attributes he⟩

theorem ofMapping_sameBut {entries entries' : Pairs}
    (h : List.Forall₂ (AcceptedAlike R) entries entries') :
    SameBut R (ofMapping entries) (ofMapping entries') := by
  have hfold : ∀ d d' : Declaration, SameBut R d d' →
      SameBut R (entries.foldl accept d) (entries'.foldl accept d') := by
    induction h with
    | nil => exact fun _ _ hd => hd
    | cons he _ ih =>
        intro d d' hd
        rw [List.foldl_cons, List.foldl_cons]
        exact ih _ _ (accept_sameBut hd he)
  exact hfold _ _ ⟨rfl, .nil⟩

end Declaration

/-! ### Each step -/

theorem AlikeDeclaration.of_eq {v v' : Value} {d : Declaration}
    (h : Declaration.ofValue? v = some d) (h' : Declaration.ofValue? v' = some d) :
    AlikeDeclaration v v' :=
  ⟨d, d, h, h', .refl d⟩

/-- What describes a declaration is set, and no sequence. -/
theorem hasChildren_of_ofValue? {d child : Declaration}
    (h : Declaration.ofValue? (d.get "children") = some child) :
    d.hasChildren = true ∧ d.childList = .ok [child] := by
  have hchildren : d.hasChildren = true := by
    rw [Declaration.hasChildren, Declaration.sets]
    cases hget : d.get "children" <;> simp_all [Declaration.ofValue?, Value.items?, Value.isSet]
  exact ⟨hchildren, (Declaration.childList_eq_ok_iff hchildren _).mpr (.one h)⟩

theorem hasChildren_of_items? {d : Declaration} {items : List Value}
    (h : (d.get "children").items? = some items) : d.hasChildren = !items.isEmpty := by
  rw [Declaration.hasChildren, h]

theorem ofItems_alike {v v' : Value} (h : AlikeDeclaration v v') (before after : List Value)
    (index : Nat) :
    ReadAlike (Declaration.ofItems index (before ++ v :: after))
      (Declaration.ofItems index (before ++ v' :: after)) := by
  induction before generalizing index with
  | nil =>
      obtain ⟨d, d', hd, hd', hmirrors⟩ := h
      simp only [List.nil_append, Declaration.ofItems, hd, hd']
      cases Declaration.ofItems (index + 1) after with
      | error e => exact .error e
      | ok nodes => exact .ok (.cons hmirrors (List.forall₂_same.mpr fun d _ => .refl d))
  | cons x before ih =>
      simp only [List.cons_append, Declaration.ofItems]
      cases Declaration.ofValue? x with
      | none => exact .error _
      | some d =>
          have hrest := ih (index + 1)
          generalize Declaration.ofItems (index + 1) (before ++ v :: after) = r at hrest
          generalize Declaration.ofItems (index + 1) (before ++ v' :: after) = r' at hrest
          cases hrest with
          | error e => exact .error e
          | ok hnodes => exact .ok (.cons (.refl d) hnodes)

theorem AlikeChildren.of_items {v v' : Value} {items items' : List Value}
    (hv : v.items? = some items) (hv' : v'.items? = some items')
    (hempty : items.isEmpty = items'.isEmpty)
    (h : ReadAlike (Declaration.ofItems 0 items) (Declaration.ofItems 0 items')) :
    AlikeChildren v v' := by
  rintro d d' hname rfl rfl
  refine ⟨by rw [hasChildren_of_items? hv, hasChildren_of_items? hv', hempty], ?_⟩
  simp only [Declaration.childList, Declaration.ofValue?_of_items? hv,
    Declaration.ofValue?_of_items? hv', hv, hv', hname]
  generalize Declaration.ofItems 0 items = r at h
  generalize Declaration.ofItems 0 items' = r' at h
  cases h with
  | error e => exact .error _
  | ok hnodes => exact .ok hnodes

theorem ofForest_alike {v v' : Value} {items items' : List Value}
    (hv : v.items? = some items) (hv' : v'.items? = some items')
    (h : ReadAlike (Declaration.ofItems 0 items) (Declaration.ofItems 0 items')) :
    ReadAlike (Declaration.ofForest v) (Declaration.ofForest v') := by
  simp only [Declaration.ofForest, hv, hv']
  generalize Declaration.ofItems 0 items = r at h
  generalize Declaration.ofItems 0 items' = r' at h
  cases h with
  | error e => exact .error _
  | ok hnodes => exact .ok hnodes

/-- Sequences of items that are read alike say the same as children and as forests. -/
theorem Alike.of_items {reading : Reading} (hreading : reading ≠ .declaration) {v v' : Value}
    {items items' : List Value} (hv : v.items? = some items) (hv' : v'.items? = some items')
    (hempty : items.isEmpty = items'.isEmpty)
    (h : ReadAlike (Declaration.ofItems 0 items) (Declaration.ofItems 0 items')) :
    Alike reading v v' := by
  cases reading with
  | forest => exact ofForest_alike hv hv' h
  | children => exact AlikeChildren.of_items hv hv' hempty h
  | declaration => exact absurd rfl hreading

theorem Alike.of_declaration {v v' : Value} (h : AlikeDeclaration v v') :
    Alike .children v v' := by
  obtain ⟨child, child', hv, hv', hmirrors⟩ := h
  rintro d d' - rfl rfl
  obtain ⟨hchildren, hlist⟩ := hasChildren_of_ofValue? hv
  obtain ⟨hchildren', hlist'⟩ := hasChildren_of_ofValue? hv'
  rw [hchildren, hchildren', hlist, hlist']
  exact ⟨rfl, .ok (.cons hmirrors .nil)⟩

theorem Alike.of_single {v : Value} {child : Declaration}
    (h : Declaration.ofValue? v = some child) : Alike .children (.list [v]) v := by
  intro d d' _ hd hd'
  have hitems : (d.get "children").items? = some [v] := by rw [hd, Value.items?]
  have hchildren : d.hasChildren = true := by rw [hasChildren_of_items? hitems]; rfl
  have hlist : d.childList = .ok [child] :=
    (Declaration.childList_eq_ok_iff hchildren _).mpr (.many hitems (by simp) (.cons h .nil))
  subst hd'
  obtain ⟨hchildren', hlist'⟩ := hasChildren_of_ofValue? h
  rw [hchildren, hchildren', hlist, hlist']
  exact ⟨rfl, .refl _⟩

theorem Alike.of_entries {entries entries' : Pairs}
    (h : List.Forall₂ (Declaration.AcceptedAlike AlikeChildren) entries entries') :
    Alike .declaration (.map entries) (.map entries') :=
  ⟨_, _, rfl, rfl, Declaration.mirrors_of_sameBut (Declaration.ofMapping_sameBut h)⟩

theorem forall₂_middle {α : Type} {R : α → α → Prop} (hrefl : ∀ a, R a a) {a b : α} (h : R a b)
    (before after : List α) : List.Forall₂ R (before ++ a :: after) (before ++ b :: after) :=
  List.rel_append (List.forall₂_same.mpr fun c _ => hrefl c)
    (.cons h (List.forall₂_same.mpr fun c _ => hrefl c))

/-- A step to another spelling does not change what is read. -/
theorem Respells.alike {reading : Reading} {v v' : Value} (h : Respells reading v v') :
    Alike reading v v' := by
  have hrefl : ∀ pair, Pairs.SameBut AlikeChildren pair pair := .refl AlikeChildren.refl
  have haccepted : ∀ e, Declaration.AcceptedAlike AlikeChildren e e := fun e => hrefl _
  induction h with
  | name hword hk hk' =>
      -- both names are kept under the keyword that they spell
      refine Alike.of_entries (forall₂_middle haccepted ?_ _ _)
      unfold Declaration.AcceptedAlike
      rw [Keyword.attributeKey_of_isSpelling hword hk, Keyword.attributeKey_of_isSpelling hword hk']
      exact hrefl _
  | coerce entries => exact .of_eq rfl rfl
  | single h => exact Alike.of_single h
  | sequence hreading items => exact Alike.of_items hreading rfl rfl rfl (.refl _)
  | @item reading v v' before after hreading _ ih =>
      have hempty : (before ++ v :: after).isEmpty = (before ++ v' :: after).isEmpty := by
        cases before <;> rfl
      exact Alike.of_items hreading rfl rfl hempty (ofItems_alike ih before after 0)
  | child _ ih => exact Alike.of_declaration ih
  | entry hk _ ih =>
      refine Alike.of_entries (forall₂_middle haccepted ?_ _ _)
      unfold Declaration.AcceptedAlike
      rw [Keyword.attributeKey_of_isSpelling Keyword.children_mem_recognized hk]
      exact Pairs.sameBut_of_children rfl ih
  | @field name v v' before after _ ih =>
      refine ⟨_, _, rfl, rfl, Declaration.mirrors_of_sameBut ⟨rfl, ?_⟩⟩
      exact forall₂_middle hrefl (Pairs.sameBut_of_children rfl ih) _ _

/-! ### Compiling and checking -/

theorem Compile.forest_of_alike {plan : Plan} (hplan : plan.IsUnsorted) {v v' : Value}
    (h : Alike .forest v v') : forest plan v = forest plan v' := by
  have hunsorted : plan.unsorted = plan := by
    obtain ⟨type, children, roots⟩ := plan
    obtain ⟨rfl, rfl⟩ := hplan
    rfl
  change ReadAlike (Declaration.ofForest v) (Declaration.ofForest v') at h
  rw [forest, forest]
  generalize Declaration.ofForest v = r at h
  generalize Declaration.ofForest v' = r' at h
  cases h with
  | error e => rfl
  | @ok nodes nodes' hnodes =>
      have hsort : inOrder plan.sorter plan.sortForest = .ok := by
        rw [hplan.forest]
        rfl
      have hsort' : inOrder plan.sorter plan.sortChildren = .ok := by
        rw [hplan.children]
        rfl
      have hroots := roots_of_mirrors (congrFun hsort nodes) (hsort' ▸ hnodes)
      rw [hunsorted] at hroots
      exact hroots

theorem Report.ofForest_of_alike {v v' : Value} (h : Alike .forest v v') :
    ofForest v = ofForest v' := by
  change ReadAlike (Declaration.ofForest v) (Declaration.ofForest v') at h
  rw [ofForest, ofForest]
  generalize Declaration.ofForest v = r at h
  generalize Declaration.ofForest v' = r' at h
  cases h with
  | error e => rfl
  | ok hnodes =>
      have hall := @Outline.checkAll_congr [] [] _ _ <|
        hnodes.imp fun d d' hd => Outline.check_of_mirrors hd .nil
      simp only [hall]

/-- Without sort orders, forests that are spelled in different ways compile to the
same entries and hooks, or fail with the same error, and get the same report.  And
the entries of a map with unrecognized names are kept as they are. -/
theorem Compile.forest_eq_of_respelled {plan : Plan} (hplan : plan.IsUnsorted) {v v' : Value}
    (h : Relation.EqvGen (Respells .forest) v v') :
    forest plan v = forest plan v' ∧ Report.ofForest v = Report.ofForest v' ∧
      ∀ entries : Pairs, entries.Pairwise (fun p q => p.1.same q.1 = false) →
        (Declaration.ofMapping entries).attributes.filter
            (fun p => !p.1.isAmong Keyword.recognized) =
          entries.filter fun entry => !Keyword.isRecognized entry.1 := by
  have hboth : forest plan v = forest plan v' ∧ Report.ofForest v = Report.ofForest v' := by
    induction h with
    | rel v v' h => exact ⟨forest_of_alike hplan h.alike, Report.ofForest_of_alike h.alike⟩
    | refl v => exact ⟨rfl, rfl⟩
    | symm v v' _ ih => exact ⟨ih.1.symm, ih.2.symm⟩
    | trans v w v' _ _ ih ih' => exact ⟨ih.1.trans ih'.1, ih.2.trans ih'.2⟩
  exact ⟨hboth.1, hboth.2, fun entries => Declaration.unrecognized_ofMapping⟩

/-- A group in a list, given as a map with a list of one child, and the same group in a
tuple, given as a declaration with the child itself, in which names are spelled in
other ways. -/
theorem Compile.forest_eq_of_respelled_of_group :
    let child (keys killBuffer : String) : Value := .map [(.str "name", .str "A"),
      (.str keys, .str "a"), (.str killBuffer, .bool true), (.str "x_y", .int 1)]
    let group (children : Value) : Pairs :=
      [(.str "name", .str "G"), (.str "keys", .str "g"), (.str "children", children)]
    let v : Value := .list [.map (group (.list [child ":keys" "kill_buffer"]))]
    let v' : Value := .tuple [
      (Declaration.ofMapping (group (child "keys" "::kill-buffer"))).toValue]
    (∃ c, forest {} v = .ok c ∧ forest {} v' = .ok c) ∧ Report.ofForest v = Report.ofForest v' ∧
      (Declaration.ofMapping [(.str "x_y", .int 1), (.str ":keys", .str "a"),
        (.str ":x-y", .int 2)]).attributes.filter (fun p => !p.1.isAmong Keyword.recognized) =
          [(.str "x_y", .int 1), (.str ":x-y", .int 2)] := by
  intro child group v v'
  have hplan : Plan.IsUnsorted {} := ⟨rfl, rfl⟩
  have hspelling : ∀ word text, word ∈ Keyword.recognized → Keyword.normalize text = word →
      Keyword.IsSpelling word text :=
    fun word text hword => (Keyword.normalize_eq_iff hword).mp
  have hkeys : Respells .declaration (child ":keys" "kill_buffer") (child "keys" "kill_buffer") :=
    @Respells.name "keys" _ _ _ [_] _ (by decide +kernel)
      (hspelling _ _ (by decide +kernel) (by decide +kernel))
      (hspelling _ _ (by decide +kernel) (by decide +kernel))
  have hoption : Respells .declaration (child "keys" "kill_buffer") (child "keys" "::kill-buffer") :=
    @Respells.name "kill-buffer" _ _ _ [_, _] _ (by decide +kernel)
      (hspelling _ _ (by decide +kernel) (by decide +kernel))
      (hspelling _ _ (by decide +kernel) (by decide +kernel))
  have hroot : ∀ x y, Respells .declaration x y → Respells .forest (.list [x]) (.list [y]) :=
    fun x y h => @Respells.item .forest x y [] [] (by decide) h
  have hgroup : ∀ x y, Respells .children x y →
      Respells .forest (.list [.map (group x)]) (.list [.map (group y)]) := by
    intro x y h
    have hchildren := hspelling "children" "children" (by decide +kernel) (by decide +kernel)
    exact hroot _ _ (@Respells.entry (.str "children") x y
      [(.str "name", .str "G"), (.str "keys", .str "g")] [] hchildren h)
  have hcoerce := hroot _ _ (.coerce (group (child "keys" "::kill-buffer")))
  have hsteps : Relation.EqvGen (Respells .forest) v v' := by
    refine .trans _ _ _ (.rel _ _ (hgroup _ (child ":keys" "kill_buffer") (.single rfl))) ?_
    refine .trans _ _ _ (.rel _ _ (hgroup _ _ (.child hkeys))) ?_
    refine .trans _ _ _ (.rel _ _ (hgroup _ _ (.child hoption))) ?_
    exact .trans _ _ _ (.rel _ _ hcoerce) (.rel _ _ (.sequence (by decide) _))
  obtain ⟨hforest, hreport, hnames⟩ := forest_eq_of_respelled hplan hsteps
  have hok : (forest {} v).isOk = true := by decide +kernel
  obtain ⟨c, hc⟩ : ∃ c, forest {} v = .ok c := by
    cases hc : forest {} v with
    | ok c => exact ⟨c, rfl⟩
    | error f =>
        rw [hc] at hok
        cases hok
  refine ⟨⟨c, hc, hforest ▸ hc⟩, hreport, ?_⟩
  have hplain : Keyword.isRecognized (.str "x_y") = false := by decide +kernel
  have hkeys : Keyword.isRecognized (.str ":keys") = true := by decide +kernel
  have hcolon : Keyword.isRecognized (.str ":x-y") = false := by decide +kernel
  rw [hnames _ (by decide +kernel)]
  simp [hplain, hkeys, hcolon]

end CaptureForest
