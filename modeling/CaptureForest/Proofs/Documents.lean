import CaptureForest.Proofs.Loading
import CaptureForest.Yaml.Reader

/-!
# What files hold

A file gives a value that is made of scalars, lists and maps, and beyond these only of
tuples, where a list of pairs was asked for.  The reader of JSON makes no declaration,
nothing to call and no word of the program; of a reader of YAML this is asked, and it
holds of the one that the program runs with.

The collections of one notation are filled level by level, so that what is kept along
the way is an invariant of the values that were begun and of what the collections are
filled with.
-/

namespace CaptureForest

namespace Value

mutual

/-- A value as files hold them: a scalar, a list or a map. -/
def isDocument : Value → Bool
  | .list items => areDocuments items
  | .map pairs => areEntries pairs
  | .tuple _ | .node .. | .callable _ | .path _ | .entryType _ | .phase _ => false
  | _ => true

/-- The items of a list as files hold them, where a list of pairs has tuples. -/
def areDocuments : List Value → Bool
  | [] => true
  | .tuple parts :: rest => areDocuments parts && areDocuments rest
  | item :: rest => isDocument item && areDocuments rest

def areEntries : List (Value × Value) → Bool
  | [] => true
  | (k, v) :: rest => isDocument k && isDocument v && areEntries rest

end

theorem areDocuments_cons_iff (item : Value) (rest : List Value) :
    areDocuments (item :: rest) = true ↔
      (item.isDocument = true ∨ ∃ parts, item = .tuple parts ∧ areDocuments parts = true) ∧
        areDocuments rest = true := by
  cases item with
  | tuple parts => simp [areDocuments, isDocument]
  | _ =>
      rw [areDocuments, Bool.and_eq_true]
      · simp
      · nofun

theorem areDocuments_iff (items : List Value) :
    areDocuments items = true ↔ ∀ item ∈ items,
      item.isDocument = true ∨ ∃ parts, item = .tuple parts ∧ areDocuments parts = true := by
  induction items with
  | nil => simp [areDocuments]
  | cons item rest ih => rw [areDocuments_cons_iff, ih, List.forall_mem_cons]

theorem areDocuments_of_forall {items : List Value} (h : ∀ item ∈ items, item.isDocument = true) :
    areDocuments items = true :=
  (areDocuments_iff items).mpr fun item hitem => .inl (h item hitem)

theorem areEntries_cons_iff (k v : Value) (rest : Pairs) :
    areEntries ((k, v) :: rest) = true ↔
      (k.isDocument = true ∧ v.isDocument = true) ∧ areEntries rest = true := by
  rw [areEntries, Bool.and_eq_true, Bool.and_eq_true]

theorem areEntries_iff (pairs : Pairs) :
    areEntries pairs = true ↔ ∀ p ∈ pairs, p.1.isDocument = true ∧ p.2.isDocument = true := by
  induction pairs with
  | nil => simp [areEntries]
  | cons p rest ih => rw [areEntries_cons_iff, ih, List.forall_mem_cons]

theorem areEntries_insert {key v : Value} {pairs : Pairs} (hkey : key.isDocument = true)
    (hv : v.isDocument = true) (h : areEntries pairs = true) :
    areEntries (Pairs.insert key v pairs) = true := by
  induction pairs with
  | nil => simp [Pairs.insert, areEntries, hkey, hv]
  | cons p rest ih =>
      obtain ⟨k, u⟩ := p
      rw [areEntries_cons_iff] at h
      rw [Pairs.insert]
      split
      · simp [areEntries, h, hv]
      · simp [areEntries, h, ih]

theorem isDocument_of_lookup? {word : String} {v : Value} {pairs : Pairs}
    (h : areEntries pairs = true) (hlookup : Pairs.lookup? word pairs = some v) :
    v.isDocument = true := by
  induction pairs with
  | nil => cases hlookup
  | cons p rest ih =>
      obtain ⟨k, u⟩ := p
      rw [areEntries_cons_iff] at h
      rw [Pairs.lookup?] at hlookup
      split at hlookup
      · rw [← Option.some.inj hlookup]
        exact h.1.2
      · exact ih h.2 hlookup

/-- A text in a document is a string. -/
theorem eq_str_of_isDocument {v : Value} {text : String} (h : v.isDocument = true)
    (htext : v.text? = some text) : v = .str text := by
  cases v with
  | str s => exact congrArg Value.str (Option.some.inj htext)
  | entryType t => cases h
  | phase p => cases h
  | _ => cases htext

end Value

/-! ### Values from JSON -/

namespace Json

theorem isDocument_of_number {s rest : List Char} {v : Value} (h : number s = .ok (v, rest)) :
    v.isDocument = true := by
  unfold number at h
  dsimp only at h
  split at h
  all_goals
    split at h
    · cases h
    · split at h
      · cases h
        rfl
      · cases h
        rfl

theorem isDocument_of_word? {s rest : List Char} {v : Value} (h : word? s = some (v, rest)) :
    v.isDocument = true := by
  obtain ⟨entry, hentry, heq⟩ := Option.map_eq_some_iff.mp h
  have hall : ∀ entry ∈ words, entry.2.isDocument = true := by decide +kernel
  cases heq
  exact hall entry (List.mem_of_find?_eq_some hentry)

theorem isDocument_of_reads (fuel : Nat) :
    (∀ {s rest : List Char} {v : Value},
      value fuel s = .ok (v, rest) → v.isDocument = true) ∧
    (∀ {read : List Value} {s rest : List Char} {v : Value},
      (∀ item ∈ read, item.isDocument = true) → elements fuel read s = .ok (v, rest) →
        v.isDocument = true) ∧
    ∀ {read : Pairs} {s rest : List Char} {v : Value},
      Value.areEntries read = true → members fuel read s = .ok (v, rest) →
        v.isDocument = true := by
  induction fuel with
  | zero =>
      refine ⟨?_, ?_, ?_⟩
      · intro s rest v h
        cases h
      · intro read s rest v _ h
        cases h
      · intro read s rest v _ h
        cases h
  | succ fuel ih =>
      obtain ⟨hvalue, helements, hmembers⟩ := ih
      refine ⟨?_, ?_, ?_⟩
      · intro s rest v h
        unfold value at h
        split at h
        · cases h
        · split at h
          · cases h
            rfl
          · cases h
        · split at h
          · cases h
            rfl
          · exact hmembers rfl h
        · split at h
          · cases h
            rfl
          · exact helements (List.forall_mem_nil _) h
        · split at h
          · rename_i found hfound
            cases h
            exact isDocument_of_word? hfound
          · exact isDocument_of_number h
      · intro read s rest v hread h
        unfold elements at h
        split at h
        · cases h
        · rename_i item after hitem
          have hall : ∀ other ∈ item :: read, other.isDocument = true :=
            List.forall_mem_cons.mpr ⟨hvalue hitem, hread⟩
          split at h
          · cases h
            exact Value.areDocuments_of_forall fun other hother =>
              hall other (List.mem_reverse.mp hother)
          · exact helements hall h
          · cases h
      · intro read s rest v hread h
        unfold members at h
        split at h
        · split at h
          · cases h
          · split at h
            · split at h
              · cases h
              · rename_i item after hitem
                have hall : ∀ name : String,
                    Value.areEntries (Pairs.insert (.str name) item read) = true :=
                  fun name => Value.areEntries_insert rfl (hvalue hitem) hread
                dsimp only at h
                split at h
                · cases h
                  exact hall _
                · exact hmembers (hall _) h
                · cases h
            · cases h
        · cases h

theorem isDocument_of_readChars {s : List Char} {v : Value} (h : readChars s = .ok v) :
    v.isDocument = true := by
  unfold readChars at h
  split at h
  · cases h
  · split at h
    · cases h
    · rename_i hvalue
      split at h
      · cases h
        exact (isDocument_of_reads _).1 hvalue
      · cases h

end Json

/-! ### Values from YAML -/

namespace Yaml

section Readings

variable {α β : Type} {P : α → Prop} {Q : β → Prop}

/-- What a reading gives, if it gives anything, has a property. -/
def Gives (P : α → Prop) (r : Except ReadFault α) : Prop := ∀ a, r = .ok a → P a

theorem Gives.ok {a : α} (h : P a) : Gives P (.ok a) := by
  rintro b hb
  rwa [← Except.ok.inj hb]

theorem Gives.error (e : ReadFault) : Gives P (.error e) := nofun

theorem Gives.bind {r : Except ReadFault α} {f : α → Except ReadFault β} (hr : Gives P r)
    (hf : ∀ a, P a → Gives Q (f a)) : Gives Q (r >>= f) := by
  cases r with
  | error e => exact .error e
  | ok a => exact hf a (hr a rfl)

/-- What is read on the way does not matter. -/
theorem Gives.after {r : Except ReadFault α} {f : α → Except ReadFault β}
    (h : ∀ a, Gives Q (f a)) : Gives Q (r >>= f) :=
  Gives.bind (P := fun _ => True) (fun _ _ => trivial) fun a _ => h a

theorem Gives.mapM {f : α → Except ReadFault β} {items : List α}
    (h : ∀ item ∈ items, Gives Q (f item)) :
    Gives (fun results => ∀ result ∈ results, Q result) (items.mapM f) := by
  intro results hresults result hmem
  have hall := (mapM_eq_ok_iff f items results).mp hresults
  obtain ⟨item, hitem, hrun⟩ := exists_related_of_mem hall.flip hmem
  exact h item hitem result hrun

end Readings

/-- A reading gives a document if it gives anything. -/
abbrev GivesDocument (r : Except ReadFault Value) : Prop := Gives (fun v => v.isDocument = true) r

theorem ScalarValue.gives_moment (text : String) : GivesDocument (moment text) := by
  unfold moment
  split
  · exact .error _
  · dsimp only
    split
    · exact .after fun _ => .ok rfl
    · split
      all_goals exact .after fun _ => .after fun _ => .after fun _ => .ok rfl

theorem ScalarValue.gives_bytes (text : String) : GivesDocument (bytes text) := by
  unfold bytes
  split
  · exact .error _
  · split
    · exact .ok rfl
    · exact .error _

namespace Builder

theorem gives_scalarValue (g : Graph) (id : NodeId) : GivesDocument (scalarValue g id) := by
  unfold scalarValue
  refine .after fun text => ?_
  split
  · exact .ok rfl
  · exact .after fun _ => .ok rfl
  · exact .after fun _ => .ok rfl
  · exact .after fun _ => .ok rfl
  · split
    · exact ScalarValue.gives_moment text
    · exact .error _
  · exact ScalarValue.gives_bytes text
  · exact .ok rfl
  · exact .error _

/-! ### What the values of a graph are kept in -/

end Builder

def Part.IsDocument : Part → Prop
  | .value v => v.isDocument = true
  | .node _ => True

def Filling.IsDocument : Filling → Prop
  | .list parts => ∀ part ∈ parts, part.IsDocument
  | .pairs parts => ∀ p ∈ parts, p.1.IsDocument ∧ p.2.IsDocument
  | .map entries => ∀ p ∈ entries, p.1.isDocument = true ∧ p.2.IsDocument
  | .set _ => True

namespace Builder

/-- All that was begun or filled so far are values as files hold them. -/
structure IsDocument (b : Builder) : Prop where
  parts : ∀ (id : NodeId) (part : Part), (b.parts[id]?).join = some part → part.IsDocument
  fillings : ∀ (id : NodeId) (filling : Filling), (b.fillings[id]?).join = some filling → filling.IsDocument

/-- A step of the building keeps documents, and what it gives has a property. -/
def Keeps {α : Type} (P : α → Prop) (m : Building α) : Prop :=
  ∀ b b' a, b.IsDocument → m.run b = .ok (a, b') → b'.IsDocument ∧ P a

namespace Keeps

variable {α β : Type} {P : α → Prop} {Q : β → Prop}

theorem pure {a : α} (h : P a) : Keeps P (pure a) := by
  intro b b' a' hb hrun
  cases hrun
  exact ⟨hb, h⟩

theorem bind {m : Building α} {f : α → Building β} (hm : Keeps P m)
    (hf : ∀ a, P a → Keeps Q (f a)) : Keeps Q (m >>= f) := by
  intro b b' c hb hrun
  rw [StateT.run_bind] at hrun
  cases hfirst : m.run b with
  | error e =>
      rw [hfirst] at hrun
      cases hrun
  | ok result =>
      obtain ⟨a, between⟩ := result
      rw [hfirst] at hrun
      obtain ⟨hbetween, ha⟩ := hm b between a hb hfirst
      exact hf a ha between b' c hbetween hrun

theorem throw (e : ReadFault) : Keeps P (throw e) := by
  intro b b' a hb hrun
  cases hrun

theorem get : Keeps IsDocument get := by
  intro b b' a hb hrun
  cases hrun
  exact ⟨hb, hb⟩

theorem set {b : Builder} (h : b.IsDocument) : Keeps (fun _ => True) (set b) := by
  intro before b' a hb hrun
  cases hrun
  exact ⟨h, trivial⟩

theorem modify {f : Builder → Builder} (h : ∀ b : Builder, b.IsDocument → (f b).IsDocument) :
    Keeps (fun _ => True) (modify f) := by
  intro before b' a hb hrun
  cases hrun
  exact ⟨h before hb, trivial⟩

theorem lift {r : Except ReadFault α} (h : Gives P r) :
    Keeps P (liftM r : Building α) := by
  cases r with
  | error e => exact .throw e
  | ok a => exact .pure (h a rfl)

theorem map {m : Building α} {f : α → β} (hm : Keeps P m) (hf : ∀ a, P a → Q (f a)) :
    Keeps Q (f <$> m) := by
  rw [map_eq_pure_bind]
  exact hm.bind fun a ha => .pure (hf a ha)

theorem mapM {f : α → Building β} (h : ∀ a, Keeps Q (f a)) (items : List α) :
    Keeps (fun results => ∀ result ∈ results, Q result) (items.mapM f) := by
  induction items with
  | nil => exact .pure (List.forall_mem_nil _)
  | cons item rest ih =>
      rw [List.mapM_cons]
      exact (h item).bind fun first hfirst => ih.bind fun others hothers =>
        .pure (List.forall_mem_cons.mpr ⟨hfirst, hothers⟩)

theorem forM {f : α → Building Unit} (h : ∀ a, Keeps (fun _ => True) (f a)) (items : List α) :
    Keeps (fun _ => True) (items.forM f) := by
  induction items with
  | nil => exact .pure trivial
  | cons item rest ih =>
      change Keeps (fun _ => True) (f item >>= fun _ => rest.forM f)
      exact (h item).bind fun _ _ => ih

end Keeps

theorem join_setIfInBounds {α : Type} {xs : Array (Option α)} {i j : Nat} {a x : α}
    (h : ((xs.setIfInBounds i (some a))[j]?).join = some x) : x = a ∨ (xs[j]?).join = some x := by
  rw [Array.getElem?_setIfInBounds] at h
  split at h
  · split at h
    · exact .inl (Option.some.inj h).symm
    · cases h
  · exact .inr h

theorem keeps_build (id : NodeId) : Keeps Part.IsDocument (build id) := by
  unfold build
  refine Keeps.get.bind fun b hb => ?_
  split
  · rename_i part hpart
    exact .pure (hb.parts id part hpart)
  · dsimp only
    have hset : ∀ (part : Part) (waiting : List NodeId), part.IsDocument →
        Builder.IsDocument { b with
          parts := b.parts.setIfInBounds id (some part), waiting := waiting } := by
      intro part waiting hpart
      refine ⟨fun id' part' h => ?_, hb.fillings⟩
      rcases join_setIfInBounds h with rfl | h
      · exact hpart
      · exact hb.parts id' part' h
    split
    · have hfails : Keeps (fun _ => False) (throw .malformed : Building PUnit) := .throw _
      exact hfails.bind fun _ h => h.elim
    · have hend : ∀ (part : Part) (waiting : List NodeId), part.IsDocument →
          Keeps Part.IsDocument (do
            set { b with parts := b.parts.setIfInBounds id (some part), waiting := waiting }
            return part) :=
        fun part waiting hpart => (Keeps.set (hset part waiting hpart)).bind fun _ _ => .pure hpart
      split
      · have hnode : Keeps Part.IsDocument (pure (.node id)) := .pure trivial
        exact hnode.bind fun part hpart => hend part _ hpart
      · have hvalue : Keeps Part.IsDocument (.value <$> liftM (scalarValue b.graph id)) :=
          .map (.lift (gives_scalarValue b.graph id)) fun _ hv => hv
        exact hvalue.bind fun part hpart => hend part _ hpart

theorem keeps_buildKey (id : NodeId) : Keeps (fun v => v.isDocument = true) (buildKey id) := by
  refine (keeps_build id).bind fun part hpart => ?_
  cases part with
  | value v => exact .pure hpart
  | node id => exact .throw _

theorem keeps_buildPairs (id : NodeId) :
    Keeps (fun pairs => ∀ p ∈ pairs, p.1.isDocument = true ∧ Part.IsDocument p.2)
      (buildPairs id) := by
  unfold buildPairs
  refine Keeps.get.bind fun b hb => ?_
  split
  · have hmerge : Keeps (fun _ => True) (liftM (b.graph.merge b.mergeLimit id) : Building Graph) :=
      .lift fun _ _ => trivial
    refine hmerge.bind fun graph _ => ?_
    have hkept : Builder.IsDocument { b with graph := graph } := ⟨hb.parts, hb.fillings⟩
    refine (Keeps.set hkept).bind fun _ _ => .mapM (fun p => ?_) _
    exact (keeps_buildKey p.1).bind fun key hkey => (keeps_build p.2).bind fun part hpart =>
      .pure ⟨hkey, hpart⟩
  · exact .throw _

theorem keeps_buildPair (id : NodeId) :
    Keeps (fun p => Part.IsDocument p.1 ∧ Part.IsDocument p.2) (buildPair id) := by
  unfold buildPair
  refine Keeps.get.bind fun b _ => ?_
  split
  · rename_i k v _
    exact (keeps_build k).bind fun key hkey => (keeps_build v).bind fun part hpart =>
      .pure ⟨hkey, hpart⟩
  · exact .throw _

theorem keeps_filling (id : NodeId) : Keeps Filling.IsDocument (filling id) := by
  unfold filling
  refine Keeps.get.bind fun b _ => ?_
  dsimp only
  split
  · exact .map (.mapM keeps_build _) fun _ hparts => hparts
  · exact .map (.mapM keeps_buildPair _) fun _ hparts => hparts
  · exact .map (.mapM keeps_buildPair _) fun _ hparts => hparts
  · exact .map (keeps_buildPairs id) fun _ hparts => hparts
  · exact (keeps_buildPairs id).bind fun _ _ => .pure trivial
  · exact .throw _

theorem keeps_fill (id : NodeId) : Keeps (fun _ => True) (fill id) := by
  refine (keeps_filling id).bind fun filling hfilling => .modify fun b hb => ⟨hb.parts, ?_⟩
  intro id' filling' h
  rcases join_setIfInBounds h with rfl | h
  · exact hfilling
  · exact hb.fillings id' filling' h

theorem keeps_fillAll (fuel : Nat) : Keeps (fun _ => True) (fillAll fuel) := by
  induction fuel with
  | zero => exact .pure trivial
  | succ fuel ih =>
      unfold fillAll
      refine Keeps.get.bind fun b _ => ?_
      dsimp only
      split
      · exact .pure trivial
      · have hbegin : Keeps (fun _ => True) (modify fun b => { b with waiting := [] }) :=
          .modify fun b hb => ⟨hb.parts, hb.fillings⟩
        refine hbegin.bind fun _ _ => ?_
        exact (Keeps.forM keeps_fill _).bind fun _ _ => ih

/-! ### The value of a graph -/

theorem areEntries_insertPair {pairs : Pairs} {p : Value × Value}
    (h : Value.areEntries pairs = true) (hp : p.1.isDocument = true ∧ p.2.isDocument = true) :
    Value.areEntries (insertPair pairs p) = true := by
  unfold insertPair
  split
  · rw [Value.areEntries_iff] at h ⊢
    intro q hq
    obtain ⟨⟨k, v⟩, hmem, rfl⟩ := List.mem_map.mp hq
    refine ⟨(h (k, v) hmem).1, ?_⟩
    dsimp only
    split
    · exact hp.2
    · exact (h (k, v) hmem).2
  · exact Value.areEntries_insert hp.1 hp.2 h

theorem isDocument_mapOf {pairs : Pairs}
    (h : ∀ p ∈ pairs, p.1.isDocument = true ∧ p.2.isDocument = true) :
    (mapOf pairs).isDocument = true := by
  have hfold : ∀ taken : Pairs, Value.areEntries taken = true →
      Value.areEntries (pairs.foldl insertPair taken) = true := by
    induction pairs with
    | nil => exact fun _ htaken => htaken
    | cons p rest ih =>
        intro taken htaken
        apply ih fun q hq => h q (List.mem_cons_of_mem p hq)
        exact areEntries_insertPair htaken (h p List.mem_cons_self)
  exact hfold [] rfl

theorem gives_valueOf {b : Builder} (hb : b.IsDocument) (fuel : Nat) :
    ∀ part : Part, part.IsDocument → GivesDocument (b.valueOf fuel part) := by
  induction fuel with
  | zero =>
      intro part hpart
      cases part with
      | value v => exact .ok hpart
      | node id => exact .error _
  | succ fuel ih =>
      intro part hpart
      cases part with
      | value v => exact .ok hpart
      | node id =>
          unfold valueOf
          split
          · rename_i parts hparts
            have hall := hb.fillings id _ hparts
            have hitems := Gives.mapM fun part hmem => ih part (hall part hmem)
            exact hitems.bind fun items h => .ok (Value.areDocuments_of_forall h)
          · rename_i pairs hpairs
            have hall := hb.fillings id _ hpairs
            refine Gives.bind (.mapM fun p hmem => ?_) fun items h =>
              .ok ((Value.areDocuments_iff items).mpr fun item hitem => .inr (h item hitem))
            refine (ih p.1 (hall p hmem).1).bind fun k hk =>
              (ih p.2 (hall p hmem).2).bind fun v hv => .ok ⟨[k, v], rfl, ?_⟩
            exact Value.areDocuments_of_forall
              (List.forall_mem_cons.mpr ⟨hk, List.forall_mem_singleton.mpr hv⟩)
          · rename_i pairs hpairs
            have hall := hb.fillings id _ hpairs
            refine Gives.bind (.mapM fun p hmem => ?_) fun pairs h => .ok (isDocument_mapOf h)
            exact (ih p.2 (hall p hmem).2).bind fun v hv => .ok ⟨(hall p hmem).1, hv⟩
          · exact .ok rfl
          · exact .ok rfl

theorem isDocument_ofGraph (g : Graph) : (ofGraph g).IsDocument := by
  have hnone : ∀ {α : Type} (n id : Nat) (a : α),
      ((Array.replicate n (none : Option α))[id]?).join ≠ some a := by
    intro α n id a
    rw [Array.getElem?_replicate]
    split <;> nofun
  exact ⟨fun id part h => absurd h (hnone _ id part), fun id filling h => absurd h (hnone _ id filling)⟩

theorem gives_run (id : NodeId) (g : Graph) : GivesDocument (run id g) := by
  have hbuild : Keeps Part.IsDocument (do
      let part ← build id
      fillAll (g.nodes.size + 1)
      return part) :=
    (keeps_build id).bind fun part hpart => (keeps_fillAll _).bind fun _ _ => .pure hpart
  intro v h
  unfold run at h
  generalize hrun : StateT.run _ (ofGraph g) = r at h
  cases r with
  | error e => cases h
  | ok result =>
      obtain ⟨part, b⟩ := result
      obtain ⟨hb, hpart⟩ := hbuild _ b part (isDocument_ofGraph g) hrun
      exact gives_valueOf hb _ part hpart v h

end Builder

theorem isDocument_of_read {text : String} {v : Value} (h : read text = .ok v) :
    v.isDocument = true := by
  unfold read at h
  split at h
  · cases h
  · split at h
    · cases h
    · cases h
      rfl
    · exact Builder.gives_run _ _ v h

end Yaml

/-! ### Declarations in a file -/

namespace Load

/-- A reader of YAML makes documents of files, if it makes anything of them. -/
def GivesDocuments (yaml : YamlReader) : Prop :=
  ∀ octets v, yaml octets = .ok v → v.isDocument = true

theorem givesDocuments_reader : GivesDocuments Yaml.reader := by
  intro octets v h
  unfold Yaml.reader at h
  split at h
  · cases h
  · split at h
    · rename_i hread
      cases h
      exact Yaml.isDocument_of_read hread
    all_goals cases h

theorem isDocument_of_parse {yaml : YamlReader} (hyaml : GivesDocuments yaml) {path : String}
    {octets : List UInt8} {kind : Notation} {v : Value}
    (h : parse yaml path octets kind = .ok v) : v.isDocument = true := by
  cases kind with
  | json =>
      rw [parse] at h
      cases hdecode : decode octets with
      | error f =>
          rw [hdecode] at h
          cases h
      | ok text =>
          rw [hdecode] at h
          change parseJson path text = .ok v at h
          unfold parseJson at h
          split at h
          · rename_i hread
            cases h
            exact Json.isDocument_of_readChars hread
          · cases h
  | yaml =>
      rw [parse] at h
      split at h
      · rename_i hread
        cases h
        exact hyaml octets v hread
      all_goals cases h

theorem isDocument_of_itemsOf {path : String} {document : Value} {nodes : List Value}
    (hdocument : document.isDocument = true) (h : itemsOf path document = .ok nodes) :
    (Value.list nodes).isDocument = true := by
  cases document with
  | list items =>
      obtain rfl : items = nodes := Except.ok.inj h
      exact hdocument
  | map pairs =>
      rw [itemsOf] at h
      cases hlookup : Pairs.lookup? "templates" pairs with
      | none =>
          rw [hlookup] at h
          cases h
      | some found =>
          have hfound := Value.isDocument_of_lookup? hdocument hlookup
          rw [hlookup] at h
          cases found with
          | list items =>
              obtain rfl : items = nodes := Except.ok.inj h
              exact hfound
          | _ => cases h
  | _ => cases h

/-- The list in a file is made of scalars, lists and maps. -/
theorem isDocument_of_items {yaml : YamlReader} (hyaml : GivesDocuments yaml) {tree : FileTree}
    {path : String} {nodes : List Value} (h : items yaml tree path = .ok nodes) :
    (Value.list nodes).isDocument = true := by
  obtain ⟨kind, octets, hopens⟩ := exists_opens_of_items h
  rw [items_of_opens hopens] at h
  cases hparse : parse yaml (FilePath.normalize path) octets kind with
  | error f =>
      rw [hparse] at h
      cases h
  | ok document =>
      rw [hparse] at h
      exact isDocument_of_itemsOf (isDocument_of_parse hyaml hparse) h

end Load

end CaptureForest
