import CaptureForest.Entry.Basic
import CaptureForest.Output.Render
import CaptureForest.Proofs.FirstFailure
import Mathlib.Data.List.Forall2
import Mathlib.Data.Int.Order.Basic
import Mathlib.Order.MinMax

/-!
# Tables line up

Every column of a table is at least as wide as its header, before and after the
columns are shrunk, and a column that was shrunk has room for the dots of a text that
is cut.  So all cells of a column are of one width, whatever the rows hold and however
narrow the terminal is, and the lines of a table are of one length.

The lines of the text are those of the table because nothing in it breaks a line: the
texts of a row do not by assumption, and a template has its line breaks replaced.
-/

namespace CaptureForest

namespace Text

/-- The text is on one line. -/
def IsUnbroken (s : String) : Prop := '\n' ∉ s.toList

instance (s : String) : Decidable (IsUnbroken s) := inferInstanceAs (Decidable ('\n' ∉ s.toList))

def linesOf (s : String) : List String := splitOnChar '\n' s

end Text

namespace Table

/-- The texts fit into columns of the widths, one each. -/
def FitIn (texts : List String) (widths : List Nat) : Prop :=
  List.Forall₂ (fun text w => text.length ≤ w) texts widths

/-- Each text fits into its column, or the column has the least width at least. -/
def CanShow (texts : List String) (widths : List Nat) : Prop :=
  List.Forall₂ (fun text w => text.length ≤ w ∨ leastWidth ≤ w) texts widths

/-- What a column of a width shows of a text: the text with blanks after it, or as much
of its beginning as leaves room for dots. -/
structure Shows (width : Nat) (text cell : String) : Prop where
  length : cell.length = width
  padded : text.length ≤ width → ∃ n, cell = text ++ Text.repeated n ' '
  cut : width < text.length → ∃ start, start <+: text.toList ∧ cell = String.ofList start ++ "..."

inductive ShowsAll : List Nat → List String → List String → Prop
  | nil : ShowsAll [] [] []
  | cons {w : Nat} {text cell : String} {widths : List Nat} {texts cells : List String}
      (h : Shows w text cell) (hrest : ShowsAll widths texts cells) :
      ShowsAll (w :: widths) (text :: texts) (cell :: cells)

/-- The line shows the texts in columns of the widths. -/
def IsRow (widths : List Nat) (texts : List String) (line : String) : Prop :=
  ∃ cells, line = String.intercalate divider cells ∧ ShowsAll widths texts cells

/-- The length of a line: its columns, and three characters from one to the next. -/
def lineWidth (widths : List Nat) : Nat := columnsWidth widths + 3 * (widths.length - 1)

/-- A line of headers, a rule, and a line for each row, all of the same length. -/
structure IsAligned (widths : List Nat) (headers : List String) (rows : List (List String))
    (lines : List String) : Prop where
  exists_lines : ∃ header body, lines = header :: ruleLine widths :: body ∧
    IsRow widths headers header ∧ List.Forall₂ (IsRow widths) rows body
  headers_fit : FitIn headers widths
  same_length : ∀ line ∈ lines, line.length = lineWidth widths

/-- The columns of a table need the natural widths for headers and rows, and are fitted to a
limit.  They then have room for the headers and for the texts, or for the dots behind them. -/
structure IsLaidOut (limit : Int) (headers : List String) (rows : List (List String))
    (natural widths : List Nat) : Prop where
  natural_eq : naturalWidths headers rows = .ok natural
  natural_pos : 0 < columnsWidth natural
  fitted : fit limit natural = .ok widths
  headers_fit : FitIn headers widths
  rows_shown : ∀ row ∈ rows, CanShow row widths

/-- The room that a limit leaves for the columns of a table. -/
def room (limit : Int) (widths : List Nat) : Int := limit - widths.length * 3 + 1

/-- The factor by which columns are scaled that are too wide for a limit. -/
def scale (limit : Int) (widths : List Nat) : Binary64 :=
  .ofRatio (room limit widths < 0) (room limit widths).natAbs (columnsWidth widths)

end Table

namespace Presentation

def entryHeaders : List String := ["Keys", "Name", "Type", "Target", "Template"]

def hookHeaders : List String := ["Keys", "Phase", "Entry", "Callback"]

/-- The type that a table shows of an entry. -/
def typeText (pairs : Pairs) : String :=
  if ((Pairs.lookup? "group" pairs).getD .none).isTruthy then "group"
  else ((Pairs.lookup? "type" pairs).getD (.str "-")).plain

/-- The texts of an entry in a table.  The entry has keys and a name, and may have a type,
a target and a template. -/
inductive ListsEntry : Value → List String → Prop
  | intro {pairs : Pairs} {keys name : Value} (hkeys : Pairs.lookup? "keys" pairs = some keys)
      (hname : Pairs.lookup? "name" pairs = some name) :
      ListsEntry (.map pairs) [keys.plain, name.plain, typeText pairs,
        targetText ((Pairs.lookup? "target" pairs).getD .none),
        templateText ((Pairs.lookup? "template" pairs).getD (.str "-"))]

/-- The texts of a hook in a table. -/
inductive ListsHook : Value → List String → Prop
  | intro {pairs : Pairs} {keys phase entry callback : Value}
      (hkeys : Pairs.lookup? "keys" pairs = some keys)
      (hphase : Pairs.lookup? "phase" pairs = some phase)
      (hentry : Pairs.lookup? "entry" pairs = some entry)
      (hcallback : Pairs.lookup? "callback" pairs = some callback) :
      ListsHook (.map pairs) [keys.plain, phase.plain, entry.plain, callback.plain]

end Presentation

/-! ### Lines of a text -/

namespace Text

theorem splitAt_eq_splitOnP {α : Type} (isSeparator : α → Bool) (s : List α) :
    splitAt isSeparator s = s.splitOnP isSeparator := by
  induction s with
  | nil => rw [splitAt, List.splitOnP_nil]
  | cons a rest ih =>
      rw [splitAt, ih, List.splitOnP_cons_eq_if_modifyHead]
      cases hparts : rest.splitOnP isSeparator with
      | nil => exact absurd hparts (List.splitOnP_ne_nil _ _)
      | cons part parts => rfl

theorem linesOf_eq (s : String) : linesOf s = (s.toList.splitOn '\n').map String.ofList := by
  rw [linesOf, splitOnChar, splitAt_eq_splitOnP, List.splitOn_eq_splitOnP]

theorem linesOf_of_isUnbroken {s : String} (h : IsUnbroken s) : linesOf s = [s] := by
  rw [linesOf_eq, List.splitOn_eq_singleton h, List.map_singleton, String.ofList_toList]

/-- Lines that are joined have the lines of all of them. -/
theorem linesOf_intercalate {lines : List String} (h : lines ≠ []) :
    linesOf (String.intercalate "\n" lines) = lines.flatMap linesOf := by
  induction lines with
  | nil => exact absurd rfl h
  | cons line rest ih =>
      cases rest with
      | nil => rw [String.intercalate_singleton, List.flatMap_singleton]
      | cons next others =>
          have hletters : (String.intercalate "\n" (line :: next :: others)).toList =
              line.toList ++ '\n' :: (String.intercalate "\n" (next :: others)).toList := by
            rw [String.intercalate_cons_cons, String.toList_append, String.toList_append]
            simp
          rw [linesOf_eq, hletters, List.splitOn_append_cons_self, List.map_append, ← linesOf_eq,
            ← linesOf_eq, ih (List.cons_ne_nil _ _), ← List.flatMap_cons]

theorem flatMap_linesOf {lines : List String} (h : ∀ line ∈ lines, IsUnbroken line) :
    lines.flatMap linesOf = lines := by
  have hsingle : ∀ line ∈ lines, linesOf line = [line] :=
    fun line hline => linesOf_of_isUnbroken (h line hline)
  rw [List.flatMap_congr hsingle, List.flatMap_singleton']

theorem isUnbroken_append {s t : String} : IsUnbroken (s ++ t) ↔ IsUnbroken s ∧ IsUnbroken t := by
  rw [IsUnbroken, String.toList_append, List.mem_append, not_or]
  rfl

theorem isUnbroken_ofList {letters : List Char} :
    IsUnbroken (String.ofList letters) ↔ '\n' ∉ letters := by
  rw [IsUnbroken, String.toList_ofList]

theorem isUnbroken_repeated (n : Nat) {c : Char} (hc : '\n' ≠ c) : IsUnbroken (repeated n c) := by
  rw [repeated, isUnbroken_ofList]
  exact fun hmem => hc (List.eq_of_mem_replicate hmem)

theorem isUnbroken_intercalate {separator : String} {parts : List String}
    (hseparator : IsUnbroken separator) (h : ∀ part ∈ parts, IsUnbroken part) :
    IsUnbroken (String.intercalate separator parts) := by
  induction parts with
  | nil =>
      rw [String.intercalate_nil]
      exact List.not_mem_nil
  | cons part rest ih =>
      have hpart := h part List.mem_cons_self
      have hrest := ih fun other hother => h other (List.mem_cons_of_mem part hother)
      cases rest with
      | nil =>
          rw [String.intercalate_singleton]
          exact hpart
      | cons next others =>
          rw [String.intercalate_cons_cons, isUnbroken_append, isUnbroken_append]
          exact ⟨⟨hpart, hseparator⟩, hrest⟩

theorem length_repeated (n : Nat) (c : Char) : (repeated n c).length = n := by
  rw [repeated, String.length_ofList, List.length_replicate]

end Text

/-! ### Widths of columns -/

namespace Table

open Text

variable {widths : List Nat}

theorem columnsWidth_cons (w : Nat) (widths : List Nat) :
    columnsWidth (w :: widths) = w + columnsWidth widths := rfl

/-- Cells with three characters from one to the next are as long as a line has to be. -/
theorem length_intercalate {separator : String} (hseparator : separator.length = 3)
    {cells : List String} (h : List.Forall₂ (fun cell w => cell.length = w) cells widths) :
    (String.intercalate separator cells).length = lineWidth widths := by
  induction h with
  | nil => rfl
  | @cons cell w cells widths hcell hrest ih =>
      cases hrest with
      | nil => simp [String.intercalate_singleton, hcell, lineWidth, columnsWidth]
      | @cons next w' others widths hnext hothers =>
          rw [String.intercalate_cons_cons, String.length_append, String.length_append, ih, hcell,
            hseparator, lineWidth, lineWidth, columnsWidth_cons w]
          simp only [List.length_cons]
          omega

theorem FitIn.canShow {texts : List String} (h : FitIn texts widths) : CanShow texts widths :=
  h.imp fun _ _ => Or.inl

theorem CanShow.fitIn {texts : List String} (h : CanShow texts widths)
    (hshort : ∀ text ∈ texts, text.length ≤ leastWidth) : FitIn texts widths := by
  induction h with
  | nil => exact .nil
  | cons hfirst hrest ih =>
      rw [List.forall_mem_cons] at hshort
      refine .cons ?_ (ih hshort.2)
      rcases hfirst with hfirst | hfirst
      · exact hfirst
      · exact Nat.le_trans hshort.1 hfirst

/-- A row widens the columns so that it fits, and what fitted before still fits. -/
theorem exists_widen {cells : List String} (h : cells.length = widths.length) :
    ∃ widened, widen widths cells = .ok widened ∧ FitIn cells widened ∧
      ∀ texts, FitIn texts widths → FitIn texts widened := by
  induction widths generalizing cells with
  | nil =>
      rw [List.length_nil, List.length_eq_zero_iff] at h
      rw [h]
      exact ⟨[], rfl, .nil, fun _ htexts => htexts⟩
  | cons w widths ih =>
      cases cells with
      | nil => cases h
      | cons cell cells =>
          obtain ⟨widened, hwidened, hcells, hkept⟩ := ih (Nat.succ.inj h)
          refine ⟨max w cell.length :: widened, ?_, ?_, ?_⟩
          · rw [widen, hwidened]
          · exact .cons (Nat.le_max_right _ _) hcells
          · intro texts htexts
            cases htexts with
            | cons htext hrest => exact .cons (Nat.le_trans htext (Nat.le_max_left _ _)) (hkept _ hrest)

theorem FitIn.length_eq {texts : List String} (h : FitIn texts widths) :
    texts.length = widths.length :=
  List.Forall₂.length_eq h

theorem exists_foldlM_widen {headers : List String} {rows : List (List String)}
    (hheaders : FitIn headers widths) (hrows : ∀ row ∈ rows, row.length = headers.length) :
    ∃ natural, rows.foldlM widen widths = .ok natural ∧ FitIn headers natural ∧
      (∀ row ∈ rows, FitIn row natural) ∧ ∀ texts, FitIn texts widths → FitIn texts natural := by
  induction rows generalizing widths with
  | nil => exact ⟨widths, rfl, hheaders, by simp, fun _ htexts => htexts⟩
  | cons row rows ih =>
      rw [List.forall_mem_cons] at hrows
      obtain ⟨widened, hwidened, hrow, hkept⟩ := exists_widen (hrows.1.trans hheaders.length_eq)
      obtain ⟨natural, hnatural, hfit, hfits, hstill⟩ := ih (hkept headers hheaders) hrows.2
      refine ⟨natural, ?_, hfit, ?_, fun texts htexts => hstill texts (hkept texts htexts)⟩
      · rw [List.foldlM_cons, hwidened]
        exact hnatural
      · exact List.forall_mem_cons.mpr ⟨hstill row hrow, hfits⟩

/-- The widths that headers and rows need are enough for all of them. -/
theorem exists_naturalWidths {headers : List String} {rows : List (List String)}
    (hrows : ∀ row ∈ rows, row.length = headers.length) :
    ∃ natural, naturalWidths headers rows = .ok natural ∧ FitIn headers natural ∧
      ∀ row ∈ rows, FitIn row natural := by
  have hheaders : FitIn headers (headers.map String.length) := by
    rw [FitIn, List.forall₂_map_right_iff, List.forall₂_same]
    exact fun _ _ => le_rfl
  obtain ⟨natural, hnatural, hfit, hfits, -⟩ := exists_foldlM_widen hheaders hrows
  exact ⟨natural, hnatural, hfit, hfits⟩

theorem columnsWidth_pos {headers : List String} (h : FitIn headers widths)
    (hheader : ∃ header ∈ headers, 0 < header.length) : 0 < columnsWidth widths := by
  induction h with
  | nil => simp at hheader
  | cons hfirst hrest ih =>
      rw [columnsWidth_cons]
      rw [List.exists_mem_cons_iff] at hheader
      rcases hheader with hheader | hheader
      · omega
      · exact Nat.add_pos_right _ (ih hheader)

theorem leastWidth_le_scaleWidth (x : Binary64) (width : Nat) :
    leastWidth ≤ scaleWidth x width := by
  rw [scaleWidth, Int.le_toNat (le_max_of_le_left (by decide))]
  exact le_max_left _ _

theorem fit_of_le {limit : Int} (h : totalWidth widths ≤ limit) :
    fit limit widths = .ok widths :=
  if_pos h

theorem fit_of_lt {limit : Int} (h : limit < totalWidth widths) (hpos : 0 < columnsWidth widths) :
    fit limit widths = .ok (widths.map (scaleWidth (scale limit widths))) := by
  rw [fit, if_neg (not_le.mpr h), if_neg (Nat.ne_of_gt hpos)]
  rfl

/-- Columns are left as wide as they have to be, or they all get the least width. -/
theorem exists_fit (limit : Int) (hpos : 0 < columnsWidth widths) :
    ∃ fitted, fit limit widths = .ok fitted ∧
      ∀ texts, FitIn texts widths → CanShow texts fitted := by
  rcases le_or_gt (totalWidth widths) limit with hle | hlt
  · exact ⟨widths, fit_of_le hle, fun texts htexts => htexts.canShow⟩
  · refine ⟨_, fit_of_lt hlt hpos, fun texts htexts => ?_⟩
    rw [CanShow, List.forall₂_map_right_iff]
    exact htexts.imp fun _ _ _ => .inr (leastWidth_le_scaleWidth _ _)

/-! ### Cells and lines -/

theorem shows_padRight {width : Nat} {text : String} (h : text.length ≤ width) :
    Shows width text (padRight width text) where
  length := by
    rw [padRight, padding, String.length_append, String.length_ofList, List.length_replicate]
    omega
  padded _ := ⟨width - text.length, rfl⟩
  cut hlt := absurd hlt (Nat.not_lt.mpr h)

theorem cutTo_of_le {width : Nat} {text : String} (h : text.length ≤ width) :
    cutTo width text = text :=
  if_pos (Int.ofNat_le.mpr h)

theorem cutTo_of_lt {width : Nat} {text : String} (h : width < text.length) (hdots : 3 ≤ width) :
    cutTo width text = String.ofList (text.toList.take (width - 3)) ++ ellipsis := by
  have hroom : ((width : Int) - 3).toNat = width - 3 := by omega
  rw [cutTo, cut, if_neg (by omega), takeUpTo, if_pos (by omega), hroom]

theorem shows_cell {width : Nat} {text : String} (h : text.length ≤ width ∨ leastWidth ≤ width) :
    Shows width text (padRight width (cutTo width text)) := by
  rcases Nat.lt_or_ge width text.length with hlt | hge
  · have hleast : leastWidth ≤ width := h.resolve_left (Nat.not_le.mpr hlt)
    have hdots : 3 ≤ width := le_trans (by decide) hleast
    have hlength : (cutTo width text).length = width := by
      rw [cutTo_of_lt hlt hdots, String.length_append, String.length_ofList, List.length_take,
        String.length_toList, show ellipsis.length = 3 from rfl]
      omega
    have hfull : padRight width (cutTo width text) = cutTo width text := by
      rw [padRight, hlength, padding, Nat.sub_self, List.replicate_zero]
      exact String.append_empty
    rw [hfull]
    refine ⟨hlength, fun hle => absurd hlt (Nat.not_lt.mpr hle), fun _ => ?_⟩
    exact ⟨_, List.take_prefix _ _, cutTo_of_lt hlt hdots⟩
  · rw [cutTo_of_le hge]
    exact shows_padRight hge

theorem Shows.isUnbroken {width : Nat} {text cell : String} (h : Shows width text cell)
    (htext : IsUnbroken text) : IsUnbroken cell := by
  rcases Nat.lt_or_ge width text.length with hlt | hge
  · obtain ⟨start, hstart, rfl⟩ := h.cut hlt
    rw [isUnbroken_append, isUnbroken_ofList]
    exact ⟨fun hmem => htext (hstart.subset hmem), by decide⟩
  · obtain ⟨n, rfl⟩ := h.padded hge
    exact isUnbroken_append.mpr ⟨htext, isUnbroken_repeated n (by decide)⟩

theorem ShowsAll.lengths {texts cells : List String} (h : ShowsAll widths texts cells) :
    List.Forall₂ (fun cell w => cell.length = w) cells widths := by
  induction h with
  | nil => exact .nil
  | cons h _ ih => exact .cons h.length ih

theorem IsRow.length_eq {texts : List String} {line : String} (h : IsRow widths texts line) :
    line.length = lineWidth widths := by
  obtain ⟨cells, rfl, hcells⟩ := h
  exact length_intercalate rfl hcells.lengths

theorem ShowsAll.isUnbroken {texts cells : List String} (h : ShowsAll widths texts cells)
    (htexts : ∀ text ∈ texts, IsUnbroken text) : ∀ cell ∈ cells, IsUnbroken cell := by
  induction h with
  | nil => simp
  | cons h _ ih =>
      rw [List.forall_mem_cons] at htexts ⊢
      exact ⟨h.isUnbroken htexts.1, ih htexts.2⟩

theorem IsRow.isUnbroken {texts : List String} {line : String} (h : IsRow widths texts line)
    (htexts : ∀ text ∈ texts, IsUnbroken text) : IsUnbroken line := by
  obtain ⟨cells, rfl, hcells⟩ := h
  exact isUnbroken_intercalate (by decide) (hcells.isUnbroken htexts)

theorem isRow_line {cells : List String} (h : CanShow cells widths) :
    IsRow widths cells (line widths cells) := by
  refine ⟨_, rfl, ?_⟩
  induction h with
  | nil => exact .nil
  | cons hfirst _ ih => exact .cons (shows_cell hfirst) ih

theorem isRow_headerLine {headers : List String} (h : FitIn headers widths) :
    IsRow widths headers (headerLine widths headers) := by
  refine ⟨_, rfl, ?_⟩
  induction h with
  | nil => exact .nil
  | cons hfirst _ ih => exact .cons (shows_padRight hfirst) ih

theorem length_ruleLine (widths : List Nat) : (ruleLine widths).length = lineWidth widths := by
  apply length_intercalate rfl
  rw [List.forall₂_map_left_iff, List.forall₂_same]
  exact fun w _ => length_repeated w _

theorem isUnbroken_ruleLine (widths : List Nat) : IsUnbroken (ruleLine widths) := by
  apply isUnbroken_intercalate (by decide)
  intro part hpart
  obtain ⟨w, -, rfl⟩ := List.mem_map.mp hpart
  exact isUnbroken_repeated w (by decide)

/-! ### Whole tables -/

/-- The lines of a table whose columns have the widths. -/
def body (widths : List Nat) (headers : List String) (rows : List (List String)) : List String :=
  headerLine widths headers :: ruleLine widths :: rows.map (line widths)

/-- A table of rows under short headers, without colors. -/
theorem exists_render {headers : List String} {rows : List (List String)} (limit : Int)
    (hshort : ∀ header ∈ headers, header.length ≤ leastWidth)
    (hheader : ∃ header ∈ headers, 0 < header.length) (hne : rows ≠ [])
    (hrows : ∀ row ∈ rows, row.length = headers.length) :
    ∃ natural widths, IsLaidOut limit headers rows natural widths ∧
      render false limit headers rows =
        .ok (String.intercalate "\n" (body widths headers rows)) := by
  obtain ⟨natural, hnatural, hfit, hfits⟩ := exists_naturalWidths hrows
  have hpos := columnsWidth_pos hfit hheader
  obtain ⟨widths, hwidths, hshow⟩ := exists_fit limit hpos
  refine ⟨natural, widths, ⟨hnatural, hpos, hwidths, (hshow headers hfit).fitIn hshort,
    fun row hrow => hshow row (hfits row hrow)⟩, ?_⟩
  rw [render, List.isEmpty_eq_false_iff.mpr hne, lines, hnatural]
  simp only [hwidths]
  rfl

section LaidOut

variable {limit : Int} {headers : List String} {rows : List (List String)} {natural : List Nat}

theorem IsLaidOut.length_of_mem_body (h : IsLaidOut limit headers rows natural widths)
    {text : String} (htext : text ∈ body widths headers rows) : text.length = lineWidth widths := by
  rw [body, List.mem_cons, List.mem_cons] at htext
  rcases htext with rfl | rfl | htext
  · exact (isRow_headerLine h.headers_fit).length_eq
  · exact length_ruleLine widths
  · obtain ⟨row, hrow, rfl⟩ := List.mem_map.mp htext
    exact (isRow_line (h.rows_shown row hrow)).length_eq

theorem IsLaidOut.isUnbroken_of_mem_body (h : IsLaidOut limit headers rows natural widths)
    (hunbroken : ∀ header ∈ headers, IsUnbroken header)
    (htexts : ∀ row ∈ rows, ∀ text ∈ row, IsUnbroken text) {text : String}
    (htext : text ∈ body widths headers rows) : IsUnbroken text := by
  rw [body, List.mem_cons, List.mem_cons] at htext
  rcases htext with rfl | rfl | htext
  · exact (isRow_headerLine h.headers_fit).isUnbroken hunbroken
  · exact isUnbroken_ruleLine widths
  · obtain ⟨row, hrow, rfl⟩ := List.mem_map.mp htext
    exact (isRow_line (h.rows_shown row hrow)).isUnbroken (htexts row hrow)

/-- If no text breaks a line, the lines of a table are its rows, and they line up. -/
theorem IsLaidOut.isAligned (h : IsLaidOut limit headers rows natural widths)
    (hunbroken : ∀ header ∈ headers, IsUnbroken header)
    (htexts : ∀ row ∈ rows, ∀ text ∈ row, IsUnbroken text) :
    IsAligned widths headers rows
      (linesOf (String.intercalate "\n" (body widths headers rows))) := by
  have hlines : linesOf (String.intercalate "\n" (body widths headers rows)) =
      body widths headers rows := by
    have hne : body widths headers rows ≠ [] := List.cons_ne_nil _ _
    rw [linesOf_intercalate hne]
    exact flatMap_linesOf fun _ => h.isUnbroken_of_mem_body hunbroken htexts
  rw [hlines]
  refine ⟨⟨_, _, rfl, isRow_headerLine h.headers_fit, ?_⟩, h.headers_fit,
    fun _ => h.length_of_mem_body⟩
  rw [List.forall₂_map_right_iff, List.forall₂_same]
  exact fun row hrow => isRow_line (h.rows_shown row hrow)

end LaidOut

end Table

/-! ### Entries and hooks -/

namespace Presentation

open Text

theorem entryRow_of_listsEntry {v : Value} {row : List String} (h : ListsEntry v row) :
    entryRow v = .ok row := by
  obtain ⟨hkeys, hname⟩ := h
  simp only [entryRow, Value.fieldOr, Value.field, hkeys, hname, bind, Except.bind, pure, Except.pure]
  rfl

theorem hookRow_of_listsHook {v : Value} {row : List String} (h : ListsHook v row) :
    hookRow v = .ok row := by
  obtain ⟨hkeys, hphase, hentry, hcallback⟩ := h
  simp [hookRow, Value.field, hkeys, hphase, hentry, hcallback, Except.map, bind, Except.bind, pure,
    Except.pure]

theorem isUnbroken_templateText (v : Value) : IsUnbroken (templateText v) := by
  have hreplaced : IsUnbroken (replaceChar '\n' ['\\', 'n'] v.plain) := by
    rw [replaceChar, isUnbroken_ofList, List.mem_flatMap]
    rintro ⟨c, -, hc⟩
    split at hc
    · simp at hc
    · rename_i hne
      exact hne (List.mem_singleton.mp hc).symm
  rw [templateText]
  rcases Nat.lt_or_ge 40 (replaceChar '\n' ['\\', 'n'] v.plain).length with hlt | hge
  · rw [Table.cutTo_of_lt hlt (by decide), isUnbroken_append, isUnbroken_ofList]
    exact ⟨fun hmem => hreplaced (List.mem_of_mem_take hmem), by decide⟩
  · rw [Table.cutTo_of_le hge]
    exact hreplaced

theorem isUnbroken_of_listsEntry {v : Value} {row : List String} (h : ListsEntry v row)
    (htexts : ∀ text ∈ row.dropLast, IsUnbroken text) : ∀ text ∈ row, IsUnbroken text := by
  obtain ⟨hkeys, hname⟩ := h
  simp only [List.dropLast_cons_cons, List.dropLast_singleton, List.forall_mem_cons] at htexts ⊢
  obtain ⟨hkeys, hname, htype, htarget, -⟩ := htexts
  exact ⟨hkeys, hname, htype, htarget, isUnbroken_templateText _, by simp⟩

variable {items : List Value} {rows : List (List String)} {p : Presentation}

/-- What is shown below the table of entries. -/
def hooksBelow (p : Presentation) (hooks : Value) : Except Fault (List String) := do
  if hooks.isTruthy then
    let count := (← hooks.elements).length
    return ["", ← p.plainHooks hooks (.int count)]
  else return []

theorem isTruthy_list (h : items ≠ []) : (Value.list items).isTruthy = true := by
  rw [Value.isTruthy, List.isEmpty_eq_false_iff.mpr h]
  rfl

theorem length_of_listsEntry (h : List.Forall₂ ListsEntry items rows) :
    ∀ row ∈ rows, row.length = entryHeaders.length := by
  intro row hrow
  obtain ⟨v, -, hv⟩ := exists_related_of_mem h.flip hrow
  cases hv
  simp only [List.length_cons, List.length_nil, entryHeaders]

theorem length_of_listsHook (h : List.Forall₂ ListsHook items rows) :
    ∀ row ∈ rows, row.length = hookHeaders.length := by
  intro row hrow
  obtain ⟨v, -, hv⟩ := exists_related_of_mem h.flip hrow
  cases hv
  simp only [List.length_cons, List.length_nil, hookHeaders]

theorem table_eq (hcolored : p.colored = false) (headers : List String)
    (rows : List (List String)) :
    p.table headers rows = Table.render false p.width headers rows := by
  rw [table, hcolored]

theorem paint_eq (hcolored : p.colored = false) (e : Emphasis) (text : String) :
    p.paint e text = text := by
  rw [paint, hcolored]
  rfl

theorem rows_ne_nil {R : Value → List String → Prop} (hitems : items ≠ [])
    (h : List.Forall₂ R items rows) : rows ≠ [] := by
  rintro rfl
  exact hitems (List.forall₂_nil_right_iff.mp h)

/-- The table of entries, between the line above it and the hooks below it. -/
theorem exists_entryTable (hcolored : p.colored = false) (hitems : items ≠ [])
    (hrows : List.Forall₂ ListsEntry items rows) :
    ∃ natural widths, Table.IsLaidOut p.width entryHeaders rows natural widths ∧
      ∀ hooks, p.plainEntries (.list items) hooks = (p.hooksBelow hooks).map fun below =>
        joinLines (["Capture entries (" ++ toString items.length ++ ")", "",
          String.intercalate "\n" (Table.body widths entryHeaders rows)] ++ below) := by
  obtain ⟨natural, widths, hlaid, hrender⟩ := @Table.exists_render entryHeaders rows p.width
    (by decide) (by decide) (rows_ne_nil hitems hrows) (length_of_listsEntry hrows)
  have hread : items.mapM entryRow = .ok rows :=
    (mapM_eq_ok_iff _ _ _).mpr (hrows.imp fun _ _ => entryRow_of_listsEntry)
  refine ⟨natural, widths, hlaid, fun hooks => ?_⟩
  rw [← paint_eq hcolored .strong ("Capture entries (" ++ toString items.length ++ ")"),
    plainEntries, if_pos (isTruthy_list hitems)]
  change (items.mapM entryRow >>= _) = _
  rw [hread]
  change (p.table entryHeaders rows >>= _) = _
  rw [table_eq hcolored, hrender, hooksBelow]
  -- The hooks come last, and a fault in them is the answer.
  cases hooks.isTruthy with
  | false => rfl
  | true =>
      cases hooks.elements with
      | error f => rfl
      | ok elements =>
          simp only [bind, Except.bind, if_true]
          cases p.plainHooks hooks (.int elements.length) <;> rfl

theorem exists_hookTable (hcolored : p.colored = false) (hitems : items ≠ [])
    (hrows : List.Forall₂ ListsHook items rows) :
    ∃ natural widths, Table.IsLaidOut p.width hookHeaders rows natural widths ∧
      ∀ total, p.plainHooks (.list items) total =
        .ok (joinLines ["Hook handlers (" ++ total.plain ++ ")", "",
          String.intercalate "\n" (Table.body widths hookHeaders rows)]) := by
  obtain ⟨natural, widths, hlaid, hrender⟩ := @Table.exists_render hookHeaders rows p.width
    (by decide) (by decide) (rows_ne_nil hitems hrows) (length_of_listsHook hrows)
  have hread : items.mapM hookRow = .ok rows :=
    (mapM_eq_ok_iff _ _ _).mpr (hrows.imp fun _ _ => hookRow_of_listsHook)
  refine ⟨natural, widths, hlaid, fun total => ?_⟩
  rw [plainHooks, if_pos (isTruthy_list hitems), paint_eq hcolored]
  change (items.mapM hookRow >>= _) = _
  rw [hread]
  change (p.table hookHeaders rows >>= _) = _
  rw [table_eq hcolored, hrender]
  rfl

/-- The tables of entries and of hooks line up, whatever the width of the terminal, if no
text but that of a template breaks a line: each has a line of headers, a rule and a line
for each row, all of one length, and a cell shows its text with blanks after it, or the
beginning of the text with dots after it if the text is longer than the column. -/
theorem tables_line_up (hcolored : p.colored = false) (hitems : items ≠ []) :
    (∀ rows, List.Forall₂ ListsEntry items rows →
      (∀ row ∈ rows, ∀ text ∈ row.dropLast, IsUnbroken text) →
        ∃ widths table, Table.IsAligned widths entryHeaders rows (linesOf table) ∧
          ∀ hooks, p.plainEntries (.list items) hooks = (p.hooksBelow hooks).map fun below =>
            joinLines (["Capture entries (" ++ toString items.length ++ ")", "", table] ++ below)) ∧
      ∀ rows, List.Forall₂ ListsHook items rows → (∀ row ∈ rows, ∀ text ∈ row, IsUnbroken text) →
        ∃ widths table, Table.IsAligned widths hookHeaders rows (linesOf table) ∧
          ∀ total, p.plainHooks (.list items) total =
            .ok (joinLines ["Hook handlers (" ++ total.plain ++ ")", "", table]) := by
  constructor
  · intro rows hrows htexts
    obtain ⟨_, widths, hlaid, hshown⟩ := exists_entryTable hcolored hitems hrows
    refine ⟨widths, _, hlaid.isAligned (by decide) fun row hrow => ?_, hshown⟩
    obtain ⟨v, -, hv⟩ := exists_related_of_mem hrows.flip hrow
    exact isUnbroken_of_listsEntry hv (htexts row hrow)
  · intro rows hrows htexts
    obtain ⟨_, widths, hlaid, hshown⟩ := exists_hookTable hcolored hitems hrows
    exact ⟨widths, _, hlaid.isAligned (by decide) htexts, hshown⟩

/-- A terminal of one column shows a group, a leaf whose template has two lines, and the
hook of a capture with a long name. -/
theorem tables_line_up_of_one_column :
    let p : Presentation := { format := .table, width := 1 }
    let entries : List Value := [(Entry.group "w" (.str "Work")).description,
      (Entry.leaf { key := "wm", name := .str "Minutes of a meeting", type := some .entry
                    target := some (.file (.str "work.org") none .none .none)
                    template := some (.literal (.str "* %?\n%U")) }).description]
    let hooks : List Value := [.record [("keys", .str "wm"), ("phase", .str "before-finalize"),
      ("entry", .str "Minutes of a meeting"), ("callback", .str "cb:f")]]
    ∃ widths rows table widths' rows' table',
      List.Forall₂ ListsEntry entries rows ∧ List.Forall₂ ListsHook hooks rows' ∧
        Table.IsAligned widths entryHeaders rows (linesOf table) ∧
        Table.IsAligned widths' hookHeaders rows' (linesOf table') ∧
        p.plainEntries (.list entries) (.list []) =
          .ok (joinLines ["Capture entries (" ++ toString entries.length ++ ")", "", table]) ∧
        p.plainHooks (.list hooks) (.int 1) =
          .ok (joinLines ["Hook handlers (" ++ (Value.int 1).plain ++ ")", "", table']) := by
  intro p entries hooks
  have hentries : List.Forall₂ ListsEntry entries _ := .cons (.intro rfl rfl) (.cons (.intro rfl rfl) .nil)
  have hhooks : List.Forall₂ ListsHook hooks _ := .cons (.intro rfl rfl rfl rfl) .nil
  obtain ⟨widths, table, haligned, hshown⟩ :=
    (@tables_line_up entries p rfl (List.cons_ne_nil _ _)).1 _ hentries (by decide +kernel)
  obtain ⟨widths', table', haligned', hshown'⟩ :=
    (@tables_line_up hooks p rfl (List.cons_ne_nil _ _)).2 _ hhooks (by decide +kernel)
  exact ⟨widths, _, table, widths', _, table', hentries, hhooks, haligned, haligned',
    hshown (.list []), hshown' (.int 1)⟩

end Presentation

end CaptureForest
