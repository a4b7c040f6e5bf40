import CaptureForest.Load
import CaptureForest.Proofs.References

/-!
# How loading fails

A file of declarations is opened, decoded and parsed, its list is taken out, and the
references in it are resolved.  Two ways to fail are documented: there is no such
file, or an error about the declaration file.  All other ways in which a step can
fail are listed here, and a file fails in one of these just if the list says so.
-/

namespace CaptureForest

namespace Load

/-- The notation in which a file is read, by the end of its name. -/
def kindOf? (path : String) : Option Notation :=
  Notation.ofSuffix? (Text.lower (FilePath.suffix (FilePath.normalize path)))

/-- A file of declarations can be opened. -/
structure Opens (tree : FileTree) (path : String) (kind : Notation) (octets : List UInt8) :
    Prop where
  kind : kindOf? path = some kind
  octets : tree.read (FilePath.normalize path) = .ok octets

/-- The failures that loading announces. -/
inductive Documented (tree : FileTree) (path : String) : Fault → Prop
  | load {f : Fault} (h : f.IsLoad) : Documented tree path f
  | missing {e : HostFault} (h : tree.read (FilePath.normalize path) = .error (.host e))
      (hkind : e.kind = .fileNotFound) : Documented tree path (.host e)

/-- The failures that loading does not announce, step by step.  The bytes of a JSON file
are decoded first, and those of a YAML file by its reader. -/
inductive Escapes (yaml : YamlReader) (catalog : Catalog) (tree : FileTree) (path : String) :
    Fault → Prop
  | opening {kind : Notation} {e : HostFault} (hkind : kindOf? path = some kind)
      (h : tree.read (FilePath.normalize path) = .error (.host e))
      (hfound : e.kind ≠ .fileNotFound) : Escapes yaml catalog tree path (.host e)
  | decoding {octets : List UInt8} (hopens : Opens tree path .json octets)
      (h : String.fromUTF8? ⟨octets.toArray⟩ = none) :
      Escapes yaml catalog tree path (.ofKind .unicodeDecode)
  | reading {octets : List UInt8} {e : HostFault} (hopens : Opens tree path .yaml octets)
      (h : yaml octets = .error (.host e)) : Escapes yaml catalog tree path (.host e)
  | resolving {nodes : List Value} {before after : List String} {text : String}
      (hitems : items yaml tree path = .ok nodes)
      (hreferences : Reference.references (.list nodes) = before ++ text :: after)
      (hbefore : ∀ other ∈ before, ∃ v, Reference.resolve catalog other = .ok v)
      (h : Text.startsWith text "." = true) : Escapes yaml catalog tree path .wrongType

end Load

/-! ### Single steps -/

namespace Load

theorem decode_eq_error_iff (octets : List UInt8) (f : Fault) :
    decode octets = .error f ↔
      String.fromUTF8? ⟨octets.toArray⟩ = none ∧ f = .ofKind .unicodeDecode := by
  unfold decode decode?
  cases String.fromUTF8? ⟨octets.toArray⟩ with
  | none => simp [eq_comm]
  | some text => simp

section Parsing

variable {yaml : YamlReader} {octets : List UInt8}

theorem parse_of_undecodable (path : String) (h : String.fromUTF8? ⟨octets.toArray⟩ = none) :
    parse yaml path octets .json = .error (.ofKind .unicodeDecode) := by
  rw [parse, (decode_eq_error_iff octets _).mpr ⟨h, rfl⟩]
  rfl

theorem parse_of_reader (path : String) {e : HostFault} (h : yaml octets = .error (.host e)) :
    parse yaml path octets .yaml = .error (.host e) := by
  rw [parse, h]

end Parsing

section Steps

variable {yaml : YamlReader} {tree : FileTree} {path : String}

theorem items_of_unsupported (hkind : kindOf? path = none) :
    items yaml tree path = .error (unsupported (FilePath.normalize path)) := by
  unfold kindOf? at hkind
  unfold items
  dsimp only
  rw [hkind]

theorem items_of_opening {kind : Notation} {f : Fault} (hkind : kindOf? path = some kind)
    (h : tree.read (FilePath.normalize path) = .error f) : items yaml tree path = .error f := by
  unfold kindOf? at hkind
  unfold items
  dsimp only
  rw [hkind]
  dsimp only
  rw [h]
  rfl

theorem items_of_opens {kind : Notation} {octets : List UInt8}
    (h : Opens tree path kind octets) :
    items yaml tree path = parse yaml (FilePath.normalize path) octets kind >>=
      itemsOf (FilePath.normalize path) := by
  have hkind := h.kind
  unfold kindOf? at hkind
  unfold items
  dsimp only
  rw [hkind]
  dsimp only
  rw [h.octets]
  rfl

theorem exists_opens_of_items {nodes : List Value} (h : items yaml tree path = .ok nodes) :
    ∃ kind octets, Opens tree path kind octets := by
  cases hkind : kindOf? path with
  | none =>
      rw [items_of_unsupported hkind] at h
      cases h
  | some kind =>
      cases hread : tree.read (FilePath.normalize path) with
      | error f =>
          rw [items_of_opening hkind hread] at h
          cases h
      | ok octets => exact ⟨kind, octets, hkind, hread⟩

/-- After a file was opened, no fault of the host is documented. -/
theorem Opens.not_documented {kind : Notation} {octets : List UInt8}
    (h : Opens tree path kind octets) (e : HostFault) : ¬ Documented tree path (.host e) := by
  intro hdocumented
  cases hdocumented with
  | load hload => exact Fault.not_isLoad_host e hload
  | missing hread =>
      rw [h.octets] at hread
      cases hread

variable {catalog : Catalog} {f : Fault}

theorem declarations_of_items_error (h : items yaml tree path = .error f) :
    declarations yaml catalog tree path = .error f := by
  unfold declarations
  rw [h]
  rfl

theorem declarations_of_items {nodes : List Value} (h : items yaml tree path = .ok nodes) :
    declarations yaml catalog tree path = Reference.resolveIn catalog (.list nodes) := by
  unfold declarations
  rw [h]
  rfl

/-! ### The whole way -/

theorem Escapes.fails (h : Escapes yaml catalog tree path f) :
    declarations yaml catalog tree path = .error f ∧ ¬ Documented tree path f := by
  cases h with
  | opening hkind hread hfound =>
      refine ⟨declarations_of_items_error (items_of_opening hkind hread), ?_⟩
      intro hdocumented
      cases hdocumented with
      | load hload => exact Fault.not_isLoad_host _ hload
      | missing _ hmissing => exact hfound hmissing
  | decoding hopens hnone =>
      refine ⟨declarations_of_items_error ?_, hopens.not_documented _⟩
      rw [items_of_opens hopens, parse_of_undecodable _ hnone]
      rfl
  | reading hopens hreader =>
      refine ⟨declarations_of_items_error ?_, hopens.not_documented _⟩
      rw [items_of_opens hopens, parse_of_reader _ hreader]
      rfl
  | resolving hitems hreferences hbefore hdot =>
      obtain ⟨kind, octets, hopens⟩ := exists_opens_of_items hitems
      refine ⟨?_, hopens.not_documented _⟩
      rw [declarations_of_items hitems, Reference.resolveIn_eq_error_iff]
      exact ⟨_, _, _, hreferences, hbefore, Reference.resolve_of_relative catalog hdot⟩

end Steps

end Load

end CaptureForest
