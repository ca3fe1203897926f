import CidrLookup.Text.Table
import Mathlib

/-!
# The lines of a table

A table is `Flat` if each of its cells is one line and every row has a cell for each column. Cut at
its line ends, such a table is its five kinds of lines and nothing else: the upper edge, the
heading, the double line, the rows with a dotted line between each two, the lower edge.

A column is at least as wide as each cell in it (`fits_heading`, `fits_row`), whatever the cells
are; so no cell runs into the border, and all lines take the same columns on a screen.
-/

namespace CidrLookup.Text

/-! ## Cutting at line ends -/

/-- Lines without a line end in them, each with one after it, are what is found between the line
ends; nothing comes after the last. -/
theorem splitOn_ended {lines : List (List Char)} (h : ∀ line ∈ lines, '\n' ∉ line) :
    (lines.flatMap (· ++ ['\n'])).splitOn '\n' = lines ++ [[]] := by
  -- lines with an end each are the lines and an empty one, joined by the ends
  have hended : lines.flatMap (· ++ ['\n']) = List.intercalate ['\n'] (lines ++ [[]]) := by
    clear h
    induction lines with
    | nil => rfl
    | cons line more ih =>
      rw [List.flatMap_cons, ih]
      cases more with
      | nil => simp [List.intercalate]
      | cons next rest => simp [List.intercalate]
  rw [hended]
  apply List.splitOn_intercalate
  · intro line hline
    rcases List.mem_append.1 hline with hline | hline
    · exact h line hline
    · simp [List.mem_singleton.1 hline]
  · simp

/-- A text without a line end is one line. -/
theorem splitOn_of_notMem {text : List Char} (h : '\n' ∉ text) : text.splitOn '\n' = [text] := by
  have hcut : (List.intercalate ['\n'] [text]).splitOn '\n' = [text] :=
    List.splitOn_intercalate '\n' (by simpa using h) (by simp)
  simpa [List.intercalate] using hcut

/-! ## Joined lists -/

/-- What is in a joined list is in a part of it or in the separator. -/
theorem mem_intercalate {α : Type} {x : α} {sep : List α} {parts : List (List α)}
    (h : x ∈ List.intercalate sep parts) : x ∈ sep ∨ ∃ part ∈ parts, x ∈ part := by
  induction parts with
  | nil => contradiction
  | cons part more ih =>
    cases more with
    | nil => exact .inr ⟨part, List.mem_cons_self, by simpa [List.intercalate] using h⟩
    | cons next rest =>
      have hcons : List.intercalate sep (part :: next :: rest)
          = part ++ (sep ++ List.intercalate sep (next :: rest)) := by
        simp [List.intercalate]
      rw [hcons, List.mem_append, List.mem_append] at h
      rcases h with hpart | hsep | hmore
      · exact .inr ⟨part, List.mem_cons_self, hpart⟩
      · exact .inl hsep
      · rcases ih hmore with hsep | ⟨other, hother, hx⟩
        · exact .inl hsep
        · exact .inr ⟨other, List.mem_cons_of_mem _ hother, hx⟩

/-- Joining lists of one element each puts the separator between the elements. -/
theorem intercalate_singletons {α : Type} (sep : α) (items : List α) :
    List.intercalate [sep] (items.map ([·])) = items.intersperse sep := by
  induction items with
  | nil => rfl
  | cons item more ih =>
    cases more with
    | nil => rfl
    | cons next rest => simpa [List.intercalate] using ih

namespace Table

/-! ## Widths -/

/-- Every cell takes at most the columns it is given. -/
def Fits (widths : List Nat) (cells : List (List Char)) : Prop :=
  List.Forall₂ (fun cell width => Text.width cell ≤ width) cells widths

/-- Widths that hold some cells still hold them after they were widened for more. -/
theorem le_zipWith_max {cells start more : List Nat} (h : List.Forall₂ (· ≤ ·) cells start)
    (hlength : more.length = start.length) :
    List.Forall₂ (· ≤ ·) cells (List.zipWith max start more) := by
  induction h generalizing more with
  | nil => exact .nil
  | cons hle _ ih =>
    cases more with
    | nil => contradiction
    | cons width more =>
      exact .cons (Nat.le_trans hle (Nat.le_max_left _ _)) (ih (Nat.succ.inj hlength))

/-- Each width is no less than that of the row that came last. -/
theorem le_zipWith_max_right {start more : List Nat} (hlength : more.length = start.length) :
    List.Forall₂ (· ≤ ·) more (List.zipWith max start more) := by
  rw [List.zipWith_comm_of_comm Nat.max_comm]
  exact le_zipWith_max (List.forall₂_refl more) hlength.symm

/-- Widening for row after row never loses what was held before, and holds each of the rows. -/
theorem le_widen {rows : List (List String)} {start : List Nat}
    (hcells : ∀ row ∈ rows, row.length = start.length) :
    let widened := rows.foldl (fun widths row => List.zipWith max widths (row.map cellWidth)) start
    (∀ cells, List.Forall₂ (· ≤ ·) cells start → List.Forall₂ (· ≤ ·) cells widened)
      ∧ ∀ row ∈ rows, List.Forall₂ (· ≤ ·) (row.map cellWidth) widened := by
  -- the widths only grow, so a row that fits when it is looked at fits at the end
  induction rows generalizing start with
  | nil => exact ⟨fun _ h => h, List.forall_mem_nil _⟩
  | cons row more ih =>
    have hrow : (row.map cellWidth).length = start.length := by
      rw [List.length_map]
      exact hcells row List.mem_cons_self
    have hmore : ∀ next ∈ more,
        next.length = (List.zipWith max start (row.map cellWidth)).length := by
      intro next hnext
      rw [List.length_zipWith, hrow, Nat.min_self]
      exact hcells next (List.mem_cons_of_mem _ hnext)
    obtain ⟨hkeeps, hholds⟩ := ih hmore
    refine ⟨fun cells hstart => hkeeps cells (le_zipWith_max hstart hrow), fun next hnext => ?_⟩
    rcases List.mem_cons.1 hnext with rfl | hnext
    · exact hkeeps _ (le_zipWith_max_right hrow)
    · exact hholds next hnext

/-! ## Flat tables -/

/-- The lines across a table that have no cells. -/
def rules : List Rule :=
  [top, belowHeading, betweenRows, bottom]

/-- Each cell is one line, and each row has a cell for every column. -/
structure Flat (table : Table) : Prop where
  hne : table.heading ≠ []
  heading : ∀ cell ∈ table.heading, '\n' ∉ cell.toList
  cells : ∀ row ∈ table.rows, ∀ cell ∈ row, '\n' ∉ cell.toList
  hlength : ∀ row ∈ table.rows, row.length = table.heading.length

/-- A cell without a line end is as wide as its text. -/
theorem cellWidth_of_notMem {cell : String} (h : '\n' ∉ cell.toList) :
    cellWidth cell = Text.width cell.toList := by
  rw [cellWidth, cellLines, splitOn_of_notMem h]
  simp

/-- A row fits the widths that are not below those of its cells. -/
theorem fits_of_cellWidth_le {row : List String} {widths : List Nat}
    (hflat : ∀ cell ∈ row, '\n' ∉ cell.toList)
    (h : List.Forall₂ (· ≤ ·) (row.map cellWidth) widths) :
    Fits widths (row.map String.toList) := by
  rw [List.forall₂_map_left_iff] at h
  rw [Fits, List.forall₂_map_left_iff]
  induction h with
  | nil => exact .nil
  | cons hle _ ih =>
    obtain ⟨hcell, hmore⟩ := List.forall_mem_cons.1 hflat
    rw [cellWidth_of_notMem hcell] at hle
    exact .cons hle (ih hmore)

/-- A row of one-line cells is drawn in one line. -/
theorem drawRow_of_notMem {row : List String} (widths : List Nat) (hne : row ≠ [])
    (hflat : ∀ cell ∈ row, '\n' ∉ cell.toList) :
    drawRow widths row = [drawLine widths (row.map String.toList)] := by
  have hcells : row.map cellLines = (row.map String.toList).map ([·]) := by
    rw [List.map_map]
    exact List.map_congr_left fun cell hcell => splitOn_of_notMem (hflat cell hcell)
  -- each cell has one line, so the row has one
  have hheight : (((row.map cellLines).map List.length).foldl max 0) = 1 := by
    rw [hcells, List.map_map, List.map_map]
    cases row with
    | nil => contradiction
    | cons cell more =>
      clear hne hflat hcells
      induction more with
      | nil => rfl
      | cons next rest ih => simpa using ih
  rw [drawRow, hheight, hcells]
  simp [Function.comp_def]

section Flat

variable {table : Table} (h : table.Flat)
include h

/-- A row is as long as the heading, and that is not empty. -/
theorem Flat.ne_nil_of_mem {row : List String} (hrow : row ∈ table.heading :: table.rows) :
    row ≠ [] := by
  rcases List.mem_cons.1 hrow with rfl | hrow
  · exact h.hne
  · rintro rfl
    have hlength := h.hlength [] hrow
    exact h.hne (List.length_eq_zero_iff.1 hlength.symm)

/-- No cell of a flat table has a line end. -/
theorem Flat.notMem_of_mem {row : List String} (hrow : row ∈ table.heading :: table.rows) :
    ∀ cell ∈ row, '\n' ∉ cell.toList := by
  rcases List.mem_cons.1 hrow with rfl | hrow
  · exact h.heading
  · exact h.cells row hrow

/-- The columns hold the heading and every row. -/
theorem Flat.fits {row : List String} (hrow : row ∈ table.heading :: table.rows) :
    Fits table.widths (row.map String.toList) := by
  have hlength : ∀ row ∈ table.rows, row.length = (table.heading.map cellWidth).length := by
    simpa using h.hlength
  obtain ⟨hkeeps, hholds⟩ := le_widen hlength
  rcases List.mem_cons.1 hrow with rfl | hrow
  · exact fits_of_cellWidth_le h.heading (hkeeps _ (List.forall₂_refl _))
  · exact fits_of_cellWidth_le (h.cells row hrow) (hholds row hrow)

/-- The lines of a flat table, the rows in one line each. -/
theorem Flat.lines_eq :
    table.lines = top.draw table.widths :: drawLine table.widths (table.heading.map String.toList)
      :: belowHeading.draw table.widths
      :: (table.rows.map fun row => drawLine table.widths (row.map String.toList)).intersperse
          (betweenRows.draw table.widths)
      ++ [bottom.draw table.widths] := by
  have hrows : table.rows.map (drawRow table.widths)
      = (table.rows.map fun row => drawLine table.widths (row.map String.toList)).map ([·]) := by
    rw [List.map_map]
    exact List.map_congr_left fun row hrow =>
      drawRow_of_notMem _ (h.ne_nil_of_mem (List.mem_cons_of_mem _ hrow)) (h.cells row hrow)
  rw [lines, hrows, intercalate_singletons, drawRow_of_notMem _ h.hne h.heading]
  rfl

/-- A line of a flat table is one of the four rules, the heading or a row. -/
theorem Flat.mem_lines {line : List Char} (hline : line ∈ table.lines) :
    (∃ rule ∈ rules, line = rule.draw table.widths)
      ∨ ∃ row ∈ table.heading :: table.rows,
          line = drawLine table.widths (row.map String.toList) := by
  rw [h.lines_eq] at hline
  simp only [List.cons_append, List.mem_cons, List.mem_append, List.not_mem_nil, or_false] at hline
  rcases hline with rfl | rfl | rfl | hinner | rfl
  · exact .inl ⟨top, by simp [rules], rfl⟩
  · exact .inr ⟨table.heading, List.mem_cons_self, rfl⟩
  · exact .inl ⟨belowHeading, by simp [rules], rfl⟩
  · rw [← intercalate_singletons] at hinner
    rcases mem_intercalate hinner with hrule | ⟨_, hpart, hmem⟩
    · exact .inl ⟨betweenRows, by simp [rules], List.mem_singleton.1 hrule⟩
    · obtain ⟨_, hdrawn, rfl⟩ := List.mem_map.1 hpart
      obtain ⟨row, hrow, rfl⟩ := List.mem_map.1 hdrawn
      exact .inr ⟨row, List.mem_cons_of_mem _ hrow, List.mem_singleton.1 hmem⟩
  · exact .inl ⟨bottom, by simp [rules], rfl⟩

end Flat

/-! ## Cut at its line ends -/

/-- No character of a rule is a line end. -/
def Rule.IsInline (rule : Rule) : Prop :=
  '\n' ≠ rule.left ∧ '\n' ≠ rule.line ∧ '\n' ≠ rule.crossing ∧ '\n' ≠ rule.right
deriving Decidable

/-- A rule is drawn on one line. -/
theorem Rule.notMem_draw {rule : Rule} (h : rule.IsInline) (widths : List Nat) :
    '\n' ∉ rule.draw widths := by
  obtain ⟨hleft, hline, hcrossing, hright⟩ := h
  intro hmem
  simp only [Rule.draw, List.cons_append, List.mem_cons, List.mem_append, List.not_mem_nil,
    or_false] at hmem
  rcases hmem with hend | hinner | hend
  · exact hleft hend
  · rcases mem_intercalate hinner with hsep | ⟨part, hpart, hmem⟩
    · exact hcrossing (List.mem_singleton.1 hsep)
    · obtain ⟨width, -, rfl⟩ := List.mem_map.1 hpart
      exact hline (List.eq_of_mem_replicate hmem)
  · exact hright hend

/-- A row without line ends is drawn on one line. -/
theorem notMem_drawLine {widths : List Nat} {cells : List (List Char)}
    (h : ∀ cell ∈ cells, '\n' ∉ cell) : '\n' ∉ drawLine widths cells := by
  intro hmem
  simp only [drawLine, List.cons_append, List.mem_cons, List.mem_append] at hmem
  rcases hmem with hbar | hinner | hbar
  · contradiction
  · rcases mem_intercalate hinner with hsep | ⟨part, hpart, hmem⟩
    · simp at hsep
    · rw [← List.map_uncurry_zip_eq_zipWith] at hpart
      obtain ⟨⟨width, cell⟩, hzip, rfl⟩ := List.mem_map.1 hpart
      have hcell := h cell (List.of_mem_zip hzip).2
      simp [pad, hcell] at hmem
  · simp at hbar

/-- Between its line ends, a flat table has its lines. -/
theorem Flat.splitOn_draw {table : Table} (h : table.Flat) :
    table.draw.toList.splitOn '\n' = table.lines ++ [[]] := by
  have hrules : ∀ rule ∈ rules, rule.IsInline := by decide
  rw [draw, String.toList_ofList]
  apply splitOn_ended
  intro line hline
  -- a line is a rule or a row, and neither has a line end in it
  rcases h.mem_lines hline with ⟨rule, hrule, rfl⟩ | ⟨row, hrow, rfl⟩
  · exact Rule.notMem_draw (hrules rule hrule) _
  · apply notMem_drawLine
    simpa using h.notMem_of_mem hrow

/-! ## Columns on a screen -/

/-- The columns that a line across the table takes: for each cell its width, a space on both sides
and a border after it, and the border at the left edge. -/
def columns (widths : List Nat) : Nat :=
  (widths.map (· + 3)).sum + 1

/-- The characters of a rule take one column each. -/
def Rule.IsNarrow (rule : Rule) : Prop :=
  charWidth rule.left = 1 ∧ charWidth rule.line = 1 ∧ charWidth rule.crossing = 1
    ∧ charWidth rule.right = 1
deriving Decidable

/-- Parts with a narrow character between them. -/
theorem width_intercalate {sep : Char} (hsep : charWidth sep = 1) {parts : List (List Char)}
    (hne : parts ≠ []) :
    Text.width (List.intercalate [sep] parts) + 1
      = (parts.map fun part => Text.width part + 1).sum := by
  induction parts with
  | nil => contradiction
  | cons part more ih =>
    -- the separator stands between two parts, so one of the added columns is missing at the end
    cases more with
    | nil => simp [List.intercalate]
    | cons next rest =>
      have hcons : List.intercalate [sep] (part :: next :: rest)
          = part ++ sep :: List.intercalate [sep] (next :: rest) := by
        simp [List.intercalate]
      have hrest := ih (List.cons_ne_nil next rest)
      rw [hcons, width_append, width_cons, hsep, List.map_cons, List.sum_cons, ← hrest]
      omega

theorem width_replicate {c : Char} (hc : charWidth c = 1) (n : Nat) :
    Text.width (List.replicate n c) = n := by
  induction n with
  | zero => rfl
  | succ n ih => rw [List.replicate_succ, width_cons, hc, ih, Nat.add_comm]

/-- A cell that fits is padded to its width and a blank on either side. -/
theorem width_pad {width : Nat} {cell : List Char} (h : Text.width cell ≤ width) :
    Text.width (pad width cell) = width + 2 := by
  have hspace : charWidth ' ' = 1 := rfl
  simp only [pad, List.cons_append, width_cons, width_append, width_replicate_space, width_nil,
    hspace]
  omega

/-- A row is as wide as its columns. -/
theorem width_drawLine {widths : List Nat} {cells : List (List Char)} (h : Fits widths cells)
    (hne : cells ≠ []) : Text.width (drawLine widths cells) = columns widths := by
  have hbars : charWidth '│' = 1 ∧ charWidth '┆' = 1 := by decide +kernel
  -- a cell takes its width, a blank on either side and one bar
  have hcells : (List.zipWith pad widths cells).map (fun part => Text.width part + 1)
      = widths.map (· + 3) := by
    clear hne
    induction h with
    | nil => rfl
    | cons hle _ ih => rw [List.zipWith_cons_cons, List.map_cons, List.map_cons, width_pad hle, ih]
  have hparts : List.zipWith pad widths cells ≠ [] := by
    cases h with
    | nil => contradiction
    | cons => exact List.cons_ne_nil _ _
  have hjoin := width_intercalate hbars.2 hparts
  rw [hcells] at hjoin
  simp only [drawLine, List.cons_append, width_cons, width_append, width_nil, hbars.1, columns]
  omega

/-- A rule is as wide as the columns. -/
theorem Rule.width_draw {rule : Rule} (h : rule.IsNarrow) {widths : List Nat} (hne : widths ≠ []) :
    Text.width (rule.draw widths) = columns widths := by
  obtain ⟨hleft, hline, hcrossing, hright⟩ := h
  have hparts : (widths.map fun width => List.replicate (width + 2) rule.line) ≠ [] := by
    simpa using hne
  have hjoin := width_intercalate hcrossing hparts
  rw [List.map_map] at hjoin
  simp only [Function.comp_def, width_replicate hline, Nat.add_assoc, Nat.reduceAdd] at hjoin
  simp only [Rule.draw, List.cons_append, width_cons, width_append, width_nil, hleft, hright,
    columns]
  omega

/-- **Alignment.** Every line of a flat table takes the same columns on a screen, wide characters
and marks without a width included. -/
theorem Flat.width_line {table : Table} (h : table.Flat) {line : List Char}
    (hline : line ∈ table.lines) : Text.width line = columns table.widths := by
  have hrules : ∀ rule ∈ rules, rule.IsNarrow := by decide +kernel
  rcases h.mem_lines hline with ⟨rule, hrule, rfl⟩ | ⟨row, hrow, rfl⟩
  · apply Rule.width_draw (hrules rule hrule)
    -- there are as many widths as there are cells in the heading
    intro hnil
    have hlength := (h.fits List.mem_cons_self).length_eq
    rw [hnil, List.length_map] at hlength
    exact h.hne (List.length_eq_zero_iff.1 hlength)
  · exact width_drawLine (h.fits hrow) (by simpa using h.ne_nil_of_mem hrow)

end Table

end CidrLookup.Text
