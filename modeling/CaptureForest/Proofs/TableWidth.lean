import CaptureForest.Proofs.Rounding
import CaptureForest.Proofs.Tables

/-!
# Tables and the width of the terminal

A table that is too wide is shrunk in proportion, and then each column that got narrower
than the least width is widened again.  Nothing takes back from the other columns what
that adds, so a table fits only if it needs no shrinking or if the columns fit after they
were widened.  How far it can reach beyond the limit is bounded by the number of columns
that are too narrow for their share of the room.

The factor and the products are rounded to numbers of the 64-bit format.  The room that
the columns get is two characters less than what is left beside the characters between
them, so the error does no harm as long as the texts are not of astronomical length.
-/

namespace CaptureForest

namespace Text

/-- No line of the text is longer than the limit. -/
def FitsWithin (limit : Int) (s : String) : Prop := ∀ line ∈ linesOf s, (line.length : Int) ≤ limit

end Text

namespace Table

/-- The columns fit as they are, or as they are after they were shrunk. -/
def Fits (limit : Int) (natural : List Nat) : Prop :=
  totalWidth natural ≤ limit ∨
    (lineWidth (natural.map (scaleWidth (scale limit natural))) : Int) ≤ limit

instance (limit : Int) (natural : List Nat) : Decidable (Fits limit natural) :=
  inferInstanceAs (Decidable (_ ∨ _))

/-- The column's share of what a limit leaves beside the characters between columns is
less than the least width. -/
def isNarrow (limit : Int) (natural : List Nat) (width : Nat) : Bool :=
  width * (room limit natural + 2) < leastWidth * columnsWidth natural

/-- How wide a table is whose columns should be made to fit a limit. -/
structure IsFitted (limit : Int) (natural : List Nat) (table : String) : Prop where
  fitsWithin_iff : Text.FitsWithin limit table ↔ Fits limit natural
  excess : columnsWidth natural ≤ 2 ^ 50 → 0 ≤ room limit natural →
    Text.FitsWithin (limit + leastWidth * natural.countP (isNarrow limit natural)) table

end Table

namespace Text

theorem length_le_of_mem_splitOn {c : Char} {letters part : List Char}
    (h : part ∈ letters.splitOn c) : part.length ≤ letters.length := by
  induction letters generalizing part with
  | nil =>
      rw [List.splitOn_nil, List.mem_singleton] at h
      rw [h]
  | cons a rest ih =>
      rw [List.splitOn_cons_eq_if_modifyHead] at h
      split at h
      · rcases List.mem_cons.mp h with rfl | hpart
        · exact Nat.zero_le _
        · exact (ih hpart).trans (Nat.le_succ _)
      · cases hparts : rest.splitOn c with
        | nil => exact absurd hparts (List.splitOn_ne_nil _ _)
        | cons first others =>
            rw [hparts, List.modifyHead_cons, List.mem_cons] at h
            rw [hparts] at ih
            rcases h with rfl | hpart
            · exact Nat.succ_le_succ (ih List.mem_cons_self)
            · exact (ih (List.mem_cons_of_mem first hpart)).trans (Nat.le_succ _)

theorem length_le_of_mem_linesOf {s line : String} (h : line ∈ linesOf s) :
    line.length ≤ s.length := by
  rw [linesOf_eq] at h
  obtain ⟨part, hpart, rfl⟩ := List.mem_map.mp h
  rw [String.length_ofList, ← String.length_toList]
  exact length_le_of_mem_splitOn hpart

end Text

namespace Table

open Binary64 Text

variable {limit : Int} {widths natural : List Nat} {headers : List String}
  {rows : List (List String)}

/-- The rule has no line break, so the length of the lines is seen whatever the texts are. -/
theorem IsLaidOut.fitsWithin_body_iff {bound : Int} (h : IsLaidOut limit headers rows natural widths) :
    FitsWithin bound (String.intercalate "\n" (body widths headers rows)) ↔
      (lineWidth widths : Int) ≤ bound := by
  have hlines : linesOf (String.intercalate "\n" (body widths headers rows)) =
      (body widths headers rows).flatMap linesOf := linesOf_intercalate (List.cons_ne_nil _ _)
  rw [FitsWithin, hlines]
  constructor
  · intro hall
    rw [← length_ruleLine]
    refine hall _ (List.mem_flatMap.mpr ⟨ruleLine widths, ?_, ?_⟩)
    · exact List.mem_cons_of_mem _ List.mem_cons_self
    · rw [linesOf_of_isUnbroken (isUnbroken_ruleLine widths)]
      exact List.mem_singleton_self _
  · intro hwidth line hline
    obtain ⟨text, htext, hline⟩ := List.mem_flatMap.mp hline
    have hlength : line.length ≤ lineWidth widths :=
      (length_le_of_mem_linesOf hline).trans_eq (h.length_of_mem_body htext)
    omega

theorem lineWidth_le_totalWidth (hpos : 0 < columnsWidth natural) :
    (lineWidth natural : Int) ≤ totalWidth natural := by
  cases natural with
  | nil => cases hpos
  | cons w widths =>
      simp only [lineWidth, totalWidth, List.length_cons]
      omega

theorem IsLaidOut.lineWidth_le_iff (h : IsLaidOut limit headers rows natural widths) :
    (lineWidth widths : Int) ≤ limit ↔ Fits limit natural := by
  have hfitted := h.fitted
  rcases le_or_gt (totalWidth natural) limit with hle | hlt
  · rw [fit_of_le hle] at hfitted
    obtain rfl := Except.ok.inj hfitted
    exact ⟨fun _ => .inl hle, fun _ => (lineWidth_le_totalWidth h.natural_pos).trans hle⟩
  · rw [fit_of_lt hlt h.natural_pos] at hfitted
    obtain rfl := Except.ok.inj hfitted
    exact ⟨.inr, fun hfits => hfits.resolve_left (not_le.mpr hlt)⟩

/-! ### Shares of the room -/

theorem le_columnsWidth {w : Nat} (h : w ∈ widths) : w ≤ columnsWidth widths :=
  List.single_le_sum (fun _ _ => Nat.zero_le _) w h

/-- Three roundings, of two factors and of their product, with one relative and one
absolute error. -/
theorem rounded_product_le {w r ε η : ℚ} (hw : 0 ≤ w) (hr : 0 ≤ r) (hr' : r ≤ 1) (hε : 0 ≤ ε)
    (hε' : ε ≤ 1 / 8) (hη : 0 ≤ η) (hη' : η ≤ 1 / 8) :
    (w * (1 + ε) + η) * (r * (1 + ε) + η) * (1 + ε) + η ≤
      w * r * (1 + 4 * ε) + η * (2 * w + 4) := by
  have hcube : (1 + ε) ^ 3 ≤ 1 + 4 * ε := by nlinarith [mul_nonneg hε (sub_nonneg.mpr hε')]
  have hsquare : (1 + ε) ^ 2 ≤ 2 := by nlinarith
  have hmain : w * r * (1 + ε) ^ 3 ≤ w * r * (1 + 4 * ε) :=
    mul_le_mul_of_nonneg_left hcube (mul_nonneg hw hr)
  have hmixed : η * (w + r) * (1 + ε) ^ 2 ≤ η * (w + 1) * 2 := by gcongr
  have hleast : η * (η * (1 + ε)) ≤ η * 1 :=
    mul_le_mul_of_nonneg_left (by nlinarith) hη
  calc (w * (1 + ε) + η) * (r * (1 + ε) + η) * (1 + ε) + η
      = w * r * (1 + ε) ^ 3 + η * (w + r) * (1 + ε) ^ 2 + η * (η * (1 + ε)) + η := by ring
    _ ≤ w * r * (1 + 4 * ε) + η * (w + 1) * 2 + η * 1 + η := by linarith
    _ = w * r * (1 + 4 * ε) + η * (2 * w + 4) := by ring

/-- What a column gets after three roundings is less than its share of a room of one
character more, but for a part that is no whole character. -/
theorem rounded_share_lt {w r total : ℚ} (hw : 0 ≤ w) (hw' : w ≤ total) (hr : 0 ≤ r)
    (hr' : r ≤ total) (hpos : 0 < total) (hlarge : total ≤ 2 ^ 50) :
    roundingLimit (roundingLimit w * roundingLimit (r / total)) * total < w * (r + 1) + 1 := by
  -- A much greater absolute error would do, and its powers can be computed.
  have htiny : (2 : ℚ) ^ (-1075 : ℤ) ≤ 2 ^ (-200 : ℤ) :=
    zpow_le_zpow_right₀ (by norm_num) (by norm_num)
  have hproduct : roundingLimit (roundingLimit w * roundingLimit (r / total)) ≤
      w * (r / total) * (1 + 4 * 2 ^ (-53 : ℤ)) + 2 ^ (-1075 : ℤ) * (2 * w + 4) :=
    rounded_product_le hw (div_nonneg hr hpos.le) ((div_le_one hpos).mpr hr') (by positivity)
      (by norm_num) (by positivity) (htiny.trans (by norm_num))
  have hrelative : w * (r * (4 * 2 ^ (-53 : ℤ))) ≤ w * 1 := by
    refine mul_le_mul_of_nonneg_left ?_ hw
    calc r * (4 * 2 ^ (-53 : ℤ)) ≤ 2 ^ 50 * (4 * 2 ^ (-53 : ℤ)) :=
          mul_le_mul_of_nonneg_right (hr'.trans hlarge) (by positivity)
      _ ≤ 1 := by norm_num
  have hleast : 2 ^ (-1075 : ℤ) * (2 * w + 4) * total < 1 := by
    calc 2 ^ (-1075 : ℤ) * (2 * w + 4) * total
        ≤ 2 ^ (-200 : ℤ) * (2 * 2 ^ 50 + 4) * 2 ^ 50 := by
          gcongr
          exact hw'.trans hlarge
      _ < 1 := by norm_num
  calc roundingLimit (roundingLimit w * roundingLimit (r / total)) * total
      ≤ (w * (r / total) * (1 + 4 * 2 ^ (-53 : ℤ)) + 2 ^ (-1075 : ℤ) * (2 * w + 4)) * total :=
        mul_le_mul_of_nonneg_right hproduct hpos.le
    _ = w * r + w * (r * (4 * 2 ^ (-53 : ℤ))) + 2 ^ (-1075 : ℤ) * (2 * w + 4) * total := by
        field_simp
    _ < w * (r + 1) + 1 := by linarith

theorem isAtMost_ofInt (w : Nat) : (Binary64.ofInt w).IsAtMost (roundingLimit w) := by
  have hrounded := ofRatio_isAtMost ((w : Int) < 0) (w : Int).natAbs Nat.one_pos
  rwa [Int.natAbs_natCast, Nat.cast_one, div_one] at hrounded

theorem isAtMost_scale (hroom : 0 ≤ room limit natural) (hpos : 0 < columnsWidth natural) :
    (scale limit natural).IsAtMost
      (roundingLimit (room limit natural / columnsWidth natural)) := by
  have hcast : ((room limit natural).natAbs : ℚ) = room limit natural := by
    rw [Nat.cast_natAbs, abs_of_nonneg hroom]
  rw [← hcast]
  exact ofRatio_isAtMost _ _ hpos

/-- A column gets no more than its share of a room of one character more. -/
theorem truncate_mul_scale_le {w : Nat} (hw : w ≤ columnsWidth natural)
    (hpos : 0 < columnsWidth natural) (hlarge : columnsWidth natural ≤ 2 ^ 50)
    (hroom : 0 ≤ room limit natural) (hlt : room limit natural ≤ columnsWidth natural) :
    ((Binary64.ofInt w).mul (scale limit natural)).truncate?.getD 0 * columnsWidth natural ≤
      w * (room limit natural + 1) := by
  have htotal : (0 : ℚ) < columnsWidth natural := by exact_mod_cast hpos
  have hnonneg : (0 : ℚ) ≤ room limit natural := by exact_mod_cast hroom
  have hwidth : 0 ≤ roundingLimit (w : ℚ) := roundingLimit_nonneg (Nat.cast_nonneg w)
  have hscale : 0 ≤ roundingLimit (room limit natural / columnsWidth natural) :=
    roundingLimit_nonneg (div_nonneg hnonneg htotal.le)
  have hproduct := (isAtMost_ofInt w).mul (isAtMost_scale hroom hpos) hwidth
  have htruncated := hproduct.truncate (roundingLimit_nonneg (mul_nonneg hwidth hscale))
  have hshare : (((Binary64.ofInt w).mul (scale limit natural)).truncate?.getD 0 : ℚ) *
      columnsWidth natural < w * (room limit natural + 1) + 1 :=
    (mul_le_mul_of_nonneg_right htruncated htotal.le).trans_lt
      (rounded_share_lt (Nat.cast_nonneg w) (by exact_mod_cast hw) hnonneg (by exact_mod_cast hlt)
        htotal (by exact_mod_cast hlarge))
  -- Both sides are whole, so the part of a character is lost.
  exact Int.lt_add_one_iff.mp (by exact_mod_cast hshare)

/-- A column is as wide as its share of the room, unless that is too narrow. -/
theorem scaleWidth_mul_le {w : Nat} (hw : w ≤ columnsWidth natural)
    (hpos : 0 < columnsWidth natural) (hlarge : columnsWidth natural ≤ 2 ^ 50)
    (hroom : 0 ≤ room limit natural) (hlt : room limit natural ≤ columnsWidth natural) :
    (scaleWidth (scale limit natural) w : Int) * columnsWidth natural ≤
      w * (room limit natural + 2) +
        if isNarrow limit natural w then (leastWidth * columnsWidth natural : Int) else 0 := by
  have hscaled := truncate_mul_scale_le hw hpos hlarge hroom hlt
  rw [scaleWidth, Int.toNat_of_nonneg (le_max_of_le_left (Int.natCast_nonneg _))]
  have hshare : (w : Int) * (room limit natural + 1) ≤ w * (room limit natural + 2) :=
    mul_le_mul_of_nonneg_left (by omega) (Int.natCast_nonneg w)
  have hleast : (0 : Int) ≤ leastWidth * columnsWidth natural := by positivity
  have hnonneg : 0 ≤ (w : Int) * (room limit natural + 2) :=
    mul_nonneg (Int.natCast_nonneg w) (by omega)
  rw [max_mul_of_nonneg _ _ (Int.natCast_nonneg _), max_le_iff]
  cases hnarrow : isNarrow limit natural w with
  | true =>
      rw [if_pos rfl]
      exact ⟨by linarith, by linarith⟩
  | false =>
      have hwide : (leastWidth : Int) * columnsWidth natural ≤ w * (room limit natural + 2) :=
        not_lt.mp (of_decide_eq_false hnarrow)
      rw [if_neg Bool.false_ne_true, add_zero]
      exact ⟨hwide, hscaled.trans hshare⟩

theorem columnsWidth_map_mul_le {scaled : Nat → Nat} {narrow : Nat → Bool} {total share extra : Int}
    (h : ∀ w ∈ widths, (scaled w : Int) * total ≤ w * share + if narrow w then extra else 0) :
    (columnsWidth (widths.map scaled) : Int) * total ≤
      columnsWidth widths * share + extra * widths.countP narrow := by
  induction widths with
  | nil => simp [columnsWidth]
  | cons w widths ih =>
      rw [List.forall_mem_cons] at h
      have hrest := ih h.2
      have hfirst := h.1
      rw [List.map_cons, columnsWidth_cons, columnsWidth_cons, List.countP_cons]
      push_cast
      split at hfirst
      · rename_i hnarrow
        rw [if_pos hnarrow]
        linarith
      · rename_i hwide
        rw [if_neg hwide]
        linarith

theorem lineWidth_scaled_le (hpos : 0 < columnsWidth natural) (hlarge : columnsWidth natural ≤ 2 ^ 50)
    (hroom : 0 ≤ room limit natural) (hlt : limit < totalWidth natural) :
    (lineWidth (natural.map (scaleWidth (scale limit natural))) : Int) ≤
      limit + leastWidth * natural.countP (isNarrow limit natural) := by
  have hshort : room limit natural ≤ columnsWidth natural := by
    rw [totalWidth] at hlt
    rw [room]
    omega
  have hsum := columnsWidth_map_mul_le fun w (hw : w ∈ natural) =>
    scaleWidth_mul_le (le_columnsWidth hw) hpos hlarge hroom hshort
  have hcolumns : (columnsWidth (natural.map (scaleWidth (scale limit natural))) : Int) ≤
      room limit natural + 2 + leastWidth * natural.countP (isNarrow limit natural) := by
    refine le_of_mul_le_mul_right ?_ (Int.natCast_pos.mpr hpos)
    linarith
  have hne : natural.length ≠ 0 := by
    intro hzero
    rw [List.length_eq_zero_iff.mp hzero] at hpos
    cases hpos
  rw [lineWidth, List.length_map]
  rw [room] at hcolumns
  omega

theorem IsLaidOut.isFitted (h : IsLaidOut limit headers rows natural widths) :
    IsFitted limit natural (String.intercalate "\n" (body widths headers rows)) := by
  refine ⟨h.fitsWithin_body_iff.trans h.lineWidth_le_iff, fun hlarge hroom => ?_⟩
  rw [h.fitsWithin_body_iff]
  -- Only columns that are shrunk can be widened again.
  rcases le_or_gt (totalWidth natural) limit with hle | hlt
  · have hwidth := h.lineWidth_le_iff.mpr (.inl hle)
    exact le_add_of_le_of_nonneg hwidth (by positivity)
  · have hfitted := h.fitted
    rw [fit_of_lt hlt h.natural_pos] at hfitted
    rw [← Except.ok.inj hfitted]
    exact lineWidth_scaled_le h.natural_pos hlarge hroom hlt

end Table

namespace Presentation

open Text

variable {items : List Value} {p : Presentation}

/-- The tables of entries and of hooks fit into the terminal exactly if their columns fit
as they are, or after they were shrunk and those that got too narrow were widened again.
Otherwise each column that is too narrow for its share of the room costs as many
characters as the least width has, at most. -/
theorem tables_fit_iff (hcolored : p.colored = false) (hitems : items ≠ []) :
    (∀ rows, List.Forall₂ ListsEntry items rows →
      ∃ natural table, Table.naturalWidths entryHeaders rows = .ok natural ∧
        Table.IsFitted p.width natural table ∧
          ∀ hooks, p.plainEntries (.list items) hooks = (p.hooksBelow hooks).map fun below =>
            joinLines (["Capture entries (" ++ toString items.length ++ ")", "", table] ++ below)) ∧
      ∀ rows, List.Forall₂ ListsHook items rows →
        ∃ natural table, Table.naturalWidths hookHeaders rows = .ok natural ∧
          Table.IsFitted p.width natural table ∧
            ∀ total, p.plainHooks (.list items) total =
              .ok (joinLines ["Hook handlers (" ++ total.plain ++ ")", "", table]) := by
  constructor
  · intro rows hrows
    obtain ⟨natural, widths, hlaid, hshown⟩ := exists_entryTable hcolored hitems hrows
    exact ⟨natural, _, hlaid.natural_eq, hlaid.isFitted, hshown⟩
  · intro rows hrows
    obtain ⟨natural, widths, hlaid, hshown⟩ := exists_hookTable hcolored hitems hrows
    exact ⟨natural, _, hlaid.natural_eq, hlaid.isFitted, hshown⟩

/-- A table of hooks that is shrunk to sixty columns, where all columns stay wide enough. -/
theorem tables_fit_iff_of_sixty_columns :
    let p : Presentation := { format := .table, width := 60 }
    let hooks : List Value := [.record [("keys", .str "work-minutes"), ("phase", .str "before-finalize"),
      ("entry", .str "Minutes of a meeting"), ("callback", .str "cb:handlers.finalize")]]
    ∃ natural table, natural = [12, 15, 20, 20] ∧ p.width < Table.totalWidth natural ∧
      p.plainHooks (.list hooks) (.int 1) =
        .ok (joinLines ["Hook handlers (" ++ (Value.int 1).plain ++ ")", "", table]) ∧
      FitsWithin p.width table := by
  intro p hooks
  have hhooks : List.Forall₂ ListsHook hooks _ := .cons (.intro rfl rfl rfl rfl) .nil
  obtain ⟨natural, table, hnatural, hfitted, hshown⟩ :=
    (@tables_fit_iff hooks p rfl (List.cons_ne_nil _ _)).2 _ hhooks
  obtain rfl : [12, 15, 20, 20] = natural := Except.ok.inj hnatural
  refine ⟨_, table, rfl, by decide, hshown (.int 1), ?_⟩
  exact hfitted.fitsWithin_iff.mpr (by decide +kernel)

/-- Short keys, a short phase and a short name beside a callback of twenty characters:
there is room for four columns of the least width, but the last one gets seventeen. -/
theorem table_exceeds_terminal :
    let p : Presentation := { format := .table, width := 41 }
    let hooks : List Value := [.record [("keys", .str "a"), ("phase", .str "mode"),
      ("entry", .str "A"), ("callback", .str "cb:handlers.finalize")]]
    p.colored = false ∧ 11 * hookHeaders.length - 3 ≤ p.width ∧
      ∃ rows table, List.Forall₂ ListsHook hooks rows ∧
        (∀ row ∈ rows, ∀ text ∈ row, IsUnbroken text) ∧
        p.plainHooks (.list hooks) (.int 1) =
          .ok (joinLines ["Hook handlers (" ++ (Value.int 1).plain ++ ")", "", table]) ∧
        ¬FitsWithin p.width table := by
  intro p hooks
  have hhooks : List.Forall₂ ListsHook hooks _ := .cons (.intro rfl rfl rfl rfl) .nil
  obtain ⟨natural, widths, hlaid, hshown⟩ := @exists_hookTable hooks _ p rfl (List.cons_ne_nil _ _) hhooks
  obtain rfl : [4, 5, 5, 20] = natural := Except.ok.inj hlaid.natural_eq
  refine ⟨rfl, by decide, _, _, hhooks, by decide +kernel, hshown (.int 1), ?_⟩
  rw [hlaid.isFitted.fitsWithin_iff]
  decide +kernel

end Presentation

end CaptureForest
