import CidrLookup.Output
import CidrLookup.Proofs.Address
import CidrLookup.Proofs.Text.Table

/-!
# What is printed of a lookup

`Shows` says what an output of a lookup holds, without the printers: cut at its line ends it has a
line for each row, in their order, and in a table the heading and the rules around them. In its line
stands the address as it was given, what is known of it and, if there is one, the range it lies in
(`Row.Stands`, with `Row.Tells` for the words).

The texts of addresses and ranges are plain: no printer changes a character of them, and each takes
one column of a table. `shows_lookups` puts that together for the four formats.
-/

namespace CidrLookup

/-! ## Plain texts -/

namespace Text

/-- Printable ASCII without a quote or a backslash. -/
def IsPlain (text : List Char) : Prop :=
  ∀ c ∈ text, 0x20 ≤ c.toNat ∧ c.toNat < 0x7F ∧ c ≠ '"' ∧ c ≠ '\\'

theorem IsPlain.append {a b : List Char} (ha : IsPlain a) (hb : IsPlain b) : IsPlain (a ++ b) := by
  intro c hc
  rcases List.mem_append.1 hc with hc | hc
  · exact ha c hc
  · exact hb c hc

theorem IsPlain.cons {c : Char} {text : List Char}
    (hc : 0x20 ≤ c.toNat ∧ c.toNat < 0x7F ∧ c ≠ '"' ∧ c ≠ '\\') (h : IsPlain text) :
    IsPlain (c :: text) :=
  List.forall_mem_cons.2 ⟨hc, h⟩

theorem isPlain_of_isDigit {text : List Char} (h : ∀ c ∈ text, c.isDigit) : IsPlain text := by
  intro c hc
  have hdigit := h c hc
  rw [Char.isDigit_iff_toNat, show '0'.toNat = 48 from rfl, show '9'.toNat = 57 from rfl] at hdigit
  refine ⟨by omega, by omega, ?_, ?_⟩
  · rintro rfl
    contradiction
  · rintro rfl
    contradiction

theorem isPlain_digits (n : Nat) : IsPlain (Numeral.digits n) :=
  isPlain_of_isDigit (Numeral.denotes_digits n).hdigits

/-- A plain text has no line end in it. -/
theorem IsPlain.notMem {text : List Char} (h : IsPlain text) : '\n' ∉ text := by
  intro hmem
  have hprintable := (h _ hmem).1
  contradiction

/-- Each character of a plain text takes one column. -/
theorem IsPlain.width_eq {text : List Char} (h : IsPlain text) : Text.width text = text.length := by
  induction text with
  | nil => rfl
  | cons c more ih =>
    obtain ⟨⟨-, hmax, -⟩, hmore⟩ := List.forall_mem_cons.1 h
    have hc : charWidth c = 1 := if_pos (by omega)
    rw [width_cons, hc, ih hmore, List.length_cons, Nat.add_comm]

/-- Nothing in a plain text is escaped. -/
theorem IsPlain.flatMap_escapeChar {text : List Char} (h : IsPlain text) :
    text.flatMap Json.escapeChar = text := by
  induction text with
  | nil => rfl
  | cons c more ih =>
    obtain ⟨⟨hmin, -, hquote, hbackslash⟩, hmore⟩ := List.forall_mem_cons.1 h
    have hc : Json.escapeChar c = [c] := by
      unfold Json.escapeChar
      split <;> first | contradiction | rw [if_neg (by omega)]
    rw [List.flatMap_cons, hc, ih hmore]
    rfl

/-- A plain text is written between quotes as it is. -/
theorem Json.string_of_isPlain {text : String} (h : IsPlain text.toList) :
    Json.string text = '"' :: text.toList ++ ['"'] := by
  rw [string, h.flatMap_escapeChar]

end Text

open Text (IsPlain)

namespace Address

theorem IsGroup.isPlain {group : List Char} {value : Nat} (h : IsGroup group value) :
    IsPlain group :=
  Text.isPlain_of_isDigit h.hdenotes.hdigits

theorem Spells.isPlain {text : String} {address : Address} (h : Spells text address) :
    IsPlain text.toList := by
  have hdot : 0x20 ≤ '.'.toNat ∧ '.'.toNat < 0x7F ∧ '.' ≠ '"' ∧ '.' ≠ '\\' := by decide
  cases h with
  | quad ha hb hc hd hbits =>
    rw [String.toList_ofList]
    exact ((ha.isPlain.append (.cons hdot hb.isPlain)).append (.cons hdot hc.isPlain)).append
      (.cons hdot hd.isPlain)

end Address

theorem Cidr.isPlain_format (range : Cidr) : IsPlain range.format.toList := by
  rw [format, String.toList_ofList]
  exact (Address.spells_format range.network).isPlain.append
    (.cons (by decide) (Text.isPlain_digits _))

/-! ## What an output holds -/

namespace Output

/-- What a row tells of its address: a word for programs, words for people, and the range it lies
in. -/
inductive Row.Tells : Row → String → String → Option Cidr → Prop where
  | found (text : String) (address : Address) (range : Cidr) :
      Tells ⟨text, some (.found address range)⟩ "found" "found" (some range)
  | notFound (text : String) (address : Address) :
      Tells ⟨text, some (.notFound address)⟩ "not_found" "not found" none
  | unresolved (text : String) : Tells ⟨text, none⟩ "unresolved" "unresolved" none

/-- A line of a table: each cell is filled up with spaces to the width of its column, has a space
more on both sides, and there is a border between each two. -/
structure Boxed (widths : List Nat) (cells : List String) (line : List Char) : Prop where
  fits : List.Forall₂ (fun cell width => cell.length ≤ width) cells widths
  line_eq : line = '│' :: List.intercalate ['┆'] (List.zipWith
    (fun cell width => ' ' :: cell.toList.rightpad width ' ' ++ [' ']) cells widths) ++ ['│']

/-- The line in which a row stands; a table has columns of the given widths. -/
inductive Row.Stands (widths : List Nat) : OutputFormat → Row → List Char → Prop where
  | json {row : Row} {key words : String} (h : row.Tells key words none) :
      Stands widths .json row
        ("\x7b\"ip\":\"" ++ row.text ++ "\",\"status\":\"" ++ key ++ "\"\x7d").toList
  | json_range {row : Row} {key words : String} {range : Cidr}
      (h : row.Tells key words (some range)) :
      Stands widths .json row
        ("\x7b\"ip\":\"" ++ row.text ++ "\",\"status\":\"" ++ key ++ "\",\"cidr\":\""
          ++ range.format ++ "\",\"prefix\":\"" ++ range.network.format ++ "\",\"mask_len\":"
          ++ toString range.maskLen.toNat ++ "\x7d").toList
  | pretty {row : Row} {key words : String} (h : row.Tells key words none) :
      Stands widths .pretty row (row.text ++ " " ++ words).toList
  | pretty_range {row : Row} {key words : String} {range : Cidr}
      (h : row.Tells key words (some range)) :
      Stands widths .pretty row (row.text ++ " " ++ words ++ " in " ++ range.format).toList
  | raw {row : Row} {key words : String} (h : row.Tells key words none) :
      Stands widths .raw row ['-']
  | raw_range {row : Row} {key words : String} {range : Cidr}
      (h : row.Tells key words (some range)) : Stands widths .raw row range.format.toList
  | table {row : Row} {key words : String} {line : List Char} (h : row.Tells key words none)
      (hline : Boxed widths [row.text, words, "-"] line) : Stands widths .table row line
  | table_range {row : Row} {key words : String} {range : Cidr} {line : List Char}
      (h : row.Tells key words (some range))
      (hline : Boxed widths [row.text, words, range.format] line) : Stands widths .table row line

/-- An output shows rows: between its line ends there is a line for each, in their order. A table
has its upper edge and a heading before them, a rule between each two, and its lower edge after
them; all of its lines take the same columns on a screen. -/
inductive Shows (rows : List Row) (output : String) : OutputFormat → Prop where
  | lines {format : OutputFormat} {lines : List (List Char)} (hformat : format ≠ .table)
      (hlines : output.toList.splitOn '\n' = lines ++ [[]])
      (hrows : List.Forall₂ (Row.Stands [] format) rows lines) : Shows rows output format
  | table {widths : List Nat} {heading : List Char} {lines : List (List Char)}
      (hlines : output.toList.splitOn '\n' = Text.Table.top.draw widths :: heading
        :: Text.Table.belowHeading.draw widths
        :: lines.intersperse (Text.Table.betweenRows.draw widths)
        ++ [Text.Table.bottom.draw widths, []])
      (hheading : Boxed widths ["IP", "STATUS", "RANGE"] heading)
      (hrows : List.Forall₂ (Row.Stands widths .table) rows lines)
      (haligned : ∀ line ∈ output.toList.splitOn '\n', line ≠ [] →
        Text.width line = Text.Table.columns widths) : Shows rows output .table

/-! ## The printers -/

/-- Lines without a line end in them are what is found between the line ends of the output. -/
theorem splitOn_lines {texts : List String} (h : ∀ text ∈ texts, '\n' ∉ text.toList) :
    (lines texts).toList.splitOn '\n' = texts.map String.toList ++ [[]] := by
  have hended : (lines texts).toList = (texts.map String.toList).flatMap (· ++ ['\n']) := by
    simp [lines, line, String.toList_join, List.flatMap_map]
  rw [hended]
  apply Text.splitOn_ended
  simpa using h

namespace Row

variable (widths : List Nat)

/-- A row tells its status, and its range if it has one. -/
theorem range_or_none (row : Row) :
    row.range? = none ∧ row.Tells row.status.key row.status.label none
      ∨ ∃ range, row.range? = some range
        ∧ row.Tells row.status.key row.status.label (some range) := by
  obtain ⟨text, _ | ⟨address, range⟩ | address⟩ := row
  · exact .inl ⟨rfl, .unresolved text⟩
  · exact .inr ⟨range, rfl, .found text address range⟩
  · exact .inl ⟨rfl, .notFound text address⟩

theorem Status.isPlain_key (status : Status) : IsPlain status.key.toList := by
  cases status <;> simp [key, IsPlain]

theorem Status.isPlain_label (status : Status) : IsPlain status.label.toList := by
  cases status <;> simp [label, IsPlain]

/-- The members of a row for programs, written. -/
theorem members_eq :
    Text.Json.string "ip" = "\"ip\"".toList ∧ Text.Json.string "status" = "\"status\"".toList
      ∧ Text.Json.string "cidr" = "\"cidr\"".toList
      ∧ Text.Json.string "prefix" = "\"prefix\"".toList
      ∧ Text.Json.string "mask_len" = "\"mask_len\"".toList := by
  simp [Text.Json.string, Text.Json.escapeChar]

/-- A row for programs is an object with the address, the status and what there is of a range. -/
theorem stands_json {row : Row} (h : IsPlain row.text.toList) :
    row.Stands widths .json row.json.toList := by
  -- both sides are compared character by character; a plain text is its own escaped form
  have hip := Text.Json.string_of_isPlain h
  have hstatus := Text.Json.string_of_isPlain row.status.isPlain_key
  obtain ⟨hipKey, hstatusKey, hcidrKey, hprefixKey, hmaskKey⟩ := members_eq
  rcases row.range_or_none with ⟨hrange, htells⟩ | ⟨range, hrange, htells⟩
  · have hjson : row.json = "\x7b\"ip\":\"" ++ row.text ++ "\",\"status\":\"" ++ row.status.key
        ++ "\"\x7d" := by
      apply String.toList_injective
      simp [json, hrange, Text.Json.object, Text.Json.member, hip, hstatus, hipKey, hstatusKey]
    rw [hjson]
    exact .json htells
  · have hcidr := Text.Json.string_of_isPlain range.isPlain_format
    have hprefix := Text.Json.string_of_isPlain (Address.spells_format range.network).isPlain
    have hjson : row.json = "\x7b\"ip\":\"" ++ row.text ++ "\",\"status\":\"" ++ row.status.key
        ++ "\",\"cidr\":\"" ++ range.format ++ "\",\"prefix\":\"" ++ range.network.format
        ++ "\",\"mask_len\":" ++ toString range.maskLen.toNat ++ "\x7d" := by
      apply String.toList_injective
      simp [json, hrange, Text.Json.object, Text.Json.member, Text.Json.number, Numeral.digits,
        hip, hstatus, hcidr, hprefix, hipKey, hstatusKey, hcidrKey, hprefixKey, hmaskKey]
    rw [hjson]
    exact .json_range htells

/-- A row in a sentence is the address, the status and the range if there is one. -/
theorem stands_pretty (row : Row) : row.Stands widths .pretty row.sentence.toList := by
  rcases row.range_or_none with ⟨hrange, htells⟩ | ⟨range, hrange, htells⟩
  · have hsentence : row.sentence = row.text ++ " " ++ row.status.label := by
      apply String.toList_injective
      simp [sentence, hrange, toString]
    rw [hsentence]
    exact .pretty htells
  · have hsentence : row.sentence = row.text ++ " " ++ row.status.label ++ " in "
        ++ range.format := by
      apply String.toList_injective
      simp [sentence, hrange, toString]
    rw [hsentence]
    exact .pretty_range htells

/-- A bare row is the range or a dash. -/
theorem stands_raw (row : Row) : row.Stands widths .raw row.rangeText.toList := by
  rcases row.range_or_none with ⟨hrange, htells⟩ | ⟨range, hrange, htells⟩
  · rw [rangeText, hrange]
    exact .raw htells
  · rw [rangeText, hrange]
    exact .raw_range htells

/-- The cells of a row of a table. -/
theorem stands_table {row : Row} {line : List Char}
    (h : Boxed widths [row.text, row.status.label, row.rangeText] line) :
    row.Stands widths .table line := by
  rcases row.range_or_none with ⟨hrange, htells⟩ | ⟨range, hrange, htells⟩
  · rw [rangeText, hrange] at h
    exact .table htells h
  · rw [rangeText, hrange] at h
    exact .table_range htells h

/-- Outside a table, the line of a row has no line end in it. -/
theorem Stands.notMem {widths : List Nat} {format : OutputFormat} {row : Row} {line : List Char}
    (h : row.Stands widths format line) (hformat : format ≠ .table)
    (hplain : IsPlain row.text.toList) : '\n' ∉ line := by
  have htext := hplain.notMem
  -- every part of a line but its frame is a plain text
  have hrange (range : Cidr) : '\n' ∉ range.format.toList := range.isPlain_format.notMem
  have hprefix (range : Cidr) : '\n' ∉ range.network.format.toList :=
    (Address.spells_format range.network).isPlain.notMem
  have hmask (n : Nat) : '\n' ∉ Nat.toDigits 10 n := (Text.isPlain_digits n).notMem
  cases h with
  | json h => cases h <;> simp [htext]
  | json_range h => cases h; simp [htext, hrange, hprefix, hmask]
  | pretty h => cases h <;> simp [htext]
  | pretty_range h => cases h; simp [htext, hrange]
  | raw => simp
  | raw_range => exact hrange _
  | table => contradiction
  | table_range => contradiction

end Row

/-- Plain cells that fit their columns are drawn in a box each. -/
theorem boxed_drawLine {widths : List Nat} {cells : List String}
    (hplain : ∀ cell ∈ cells, IsPlain cell.toList)
    (hfits : Text.Table.Fits widths (cells.map String.toList)) :
    Boxed widths cells (Text.Table.drawLine widths (cells.map String.toList)) := by
  rw [Text.Table.Fits, List.forall₂_map_left_iff] at hfits
  have hboxes : List.Forall₂ (fun cell width => cell.length ≤ width) cells widths
      ∧ List.zipWith Text.Table.pad widths (cells.map String.toList)
        = List.zipWith (fun cell width => ' ' :: cell.toList.rightpad width ' ' ++ [' ']) cells
          widths := by
    -- cell by cell: a plain cell is as wide as it has characters, so its padding is that of its
    -- text
    induction hfits with
    | nil => exact ⟨.nil, rfl⟩
    | @cons cell width _ _ hle _ ih =>
      obtain ⟨hcell, hmore⟩ := List.forall_mem_cons.1 hplain
      obtain ⟨hfits, hpads⟩ := ih hmore
      rw [hcell.width_eq] at hle
      refine ⟨.cons hle hfits, ?_⟩
      have hpad : Text.Table.pad width cell.toList
          = ' ' :: cell.toList.rightpad width ' ' ++ [' '] := by
        rw [Text.Table.pad, hcell.width_eq, List.rightpad]
        simp
      rw [List.map_cons, List.zipWith_cons_cons, List.zipWith_cons_cons, hpads, hpad]
  refine ⟨hboxes.1, ?_⟩
  rw [Text.Table.drawLine, hboxes.2]

/-- An output of one line for each row shows the rows if each stands in its line. -/
theorem shows_lines {format : OutputFormat} {rows : List Row} {print : Row → String}
    (hformat : format ≠ .table) (hplain : ∀ row ∈ rows, IsPlain row.text.toList)
    (hprint : ∀ row ∈ rows, row.Stands [] format (print row).toList) :
    Shows rows (lines (rows.map print)) format := by
  have hrows : List.Forall₂ (Row.Stands [] format) rows
      ((rows.map print).map String.toList) := by
    rw [List.map_map, List.forall₂_map_right_iff, List.forall₂_same]
    exact hprint
  refine .lines hformat (splitOn_lines fun text htext => ?_) hrows
  obtain ⟨row, hrow, rfl⟩ := List.mem_map.1 htext
  exact (hprint row hrow).notMem hformat (hplain row hrow)

/-- The table of a lookup. -/
def table (rows : List Row) : Text.Table :=
  ⟨["IP", "STATUS", "RANGE"], rows.map fun row => [row.text, row.status.label, row.rangeText]⟩

theorem Row.isPlain_rangeText (row : Row) : IsPlain row.rangeText.toList := by
  rcases row.range_or_none with ⟨hrange, -⟩ | ⟨range, hrange, -⟩
  · rw [rangeText, hrange]
    simp [IsPlain]
  · rw [rangeText, hrange]
    exact range.isPlain_format

/-- The cells of the table are plain. -/
theorem isPlain_of_mem_table {rows : List Row} (hplain : ∀ row ∈ rows, IsPlain row.text.toList)
    {cells : List String} (hcells : cells ∈ (table rows).heading :: (table rows).rows) :
    ∀ cell ∈ cells, IsPlain cell.toList := by
  rcases List.mem_cons.1 hcells with rfl | hcells
  · simp [table, IsPlain]
  · obtain ⟨row, hrow, rfl⟩ := List.mem_map.1 hcells
    simp only [List.forall_mem_cons]
    exact ⟨hplain row hrow, row.status.isPlain_label, row.isPlain_rangeText, List.forall_mem_nil _⟩

/-- Each row of the table takes one line, since no cell has a line end. -/
theorem flat_table {rows : List Row} (hplain : ∀ row ∈ rows, IsPlain row.text.toList) :
    (table rows).Flat where
  hne := List.cons_ne_nil _ _
  heading cell hcell := (isPlain_of_mem_table hplain List.mem_cons_self cell hcell).notMem
  cells row hrow cell hcell :=
    (isPlain_of_mem_table hplain (List.mem_cons_of_mem _ hrow) cell hcell).notMem
  hlength row hrow := by
    obtain ⟨_, -, rfl⟩ := List.mem_map.1 hrow
    rfl

/-- The table of a lookup shows the rows. -/
theorem shows_table {rows : List Row} (hplain : ∀ row ∈ rows, IsPlain row.text.toList) :
    Shows rows (table rows).draw .table := by
  have hflat := flat_table hplain
  -- the heading and the rows stand in boxes of one set of widths, since no cell takes two lines
  have hboxed {cells : List String} (hcells : cells ∈ (table rows).heading :: (table rows).rows) :
      Boxed (table rows).widths cells
        (Text.Table.drawLine (table rows).widths (cells.map String.toList)) :=
    boxed_drawLine (isPlain_of_mem_table hplain hcells) (hflat.fits hcells)
  have hlines : (table rows).draw.toList.splitOn '\n' = _ := hflat.splitOn_draw
  have haligned : ∀ line ∈ (table rows).draw.toList.splitOn '\n', line ≠ [] →
      Text.width line = Text.Table.columns (table rows).widths := by
    rw [hlines]
    intro line hline hne
    obtain hmem | hend := List.mem_append.1 hline
    · exact hflat.width_line hmem
    · exact absurd (List.mem_singleton.1 hend) hne
  rw [hflat.lines_eq, List.append_assoc] at hlines
  refine .table hlines (hboxed List.mem_cons_self) ?_ haligned
  rw [List.forall₂_map_right_iff, table, List.forall₂_map_right_iff, List.forall₂_same]
  intro row hrow
  apply Row.stands_table
  exact hboxed (List.mem_cons_of_mem _ (List.mem_map_of_mem hrow))

/-- **What is printed.** In each format the output of a lookup shows its rows: as many lines as
there are rows, in their order, and in each line the text of the row, its status and its range. -/
theorem shows_lookups (format : OutputFormat) {rows : List Row}
    (hplain : ∀ row ∈ rows, IsPlain row.text.toList) :
    Shows rows (lookups format rows) format := by
  cases format with
  | json => exact shows_lines (by decide) hplain fun row hrow => row.stands_json _ (hplain row hrow)
  | table => exact shows_table hplain
  | pretty => exact shows_lines (by decide) hplain fun row _ => row.stands_pretty _
  | raw => exact shows_lines (by decide) hplain fun row _ => row.stands_raw _

end Output

end CidrLookup
