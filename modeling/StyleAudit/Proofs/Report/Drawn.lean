import Mathlib.Data.List.Forall2
import StyleAudit.Proofs.Source.Lines
import StyleAudit.Proofs.Text.Blank
import StyleAudit.Report.Table

/-!
# Reading drawn tables

A table is drawn for people: each cell is filled up to the width of its column and stands in a box.
`Table.read` takes the lines between the rules and cuts them at the bars.  Of the drawing it is only
used that each row of plain cells is one of these lines, with the cells between bars
(`Table.Boxes`), as in the tables that are drawn here (`Table.boxes_draw`).  So a table whose cells
have one line and no bar is read back as it was (`Table.read_draw`), however wide its cells are.
-/

namespace StyleAudit.Table

/-- The cells of a line of a drawn table; a rule has none. -/
def readLine? : List Char → Option (List String)
  | '│' :: line => some (((line.dropLast.splitOn '│').map Text.trim).map String.ofList)
  | _ => none

/-- The rows of a drawn text. -/
def readLines (t : List Char) : List (List String) := (Text.lines t).filterMap readLine?

/-- The rows of a drawn table. -/
def read (s : String) : List (List String) := readLines s.toList

/-- A cell of one line that cannot be taken for the box around it. -/
structure PlainCell (cell : String) : Prop where
  /-- There is one line. -/
  notMem_lf : '\n' ∉ cell.toList
  /-- There is no bar. -/
  notMem_bar : '│' ∉ cell.toList
  /-- There are no blanks at the edges. -/
  trim_eq : Text.trim cell.toList = cell.toList

theorem PlainCell.ofList {t : List Char} (h : '\n' ∉ t ∧ '│' ∉ t ∧ Text.trim t = t) :
    PlainCell (String.ofList t) := by
  rw [← @String.toList_ofList t] at h
  exact ⟨h.1, h.2.1, h.2.2⟩

/-- A text of one line without bars; its edges may be blank. -/
def Inline (s : String) : Prop := '\n' ∉ s.toList ∧ '│' ∉ s.toList

theorem Inline.ofList {t : List Char} (h : '\n' ∉ t ∧ '│' ∉ t) : Inline (String.ofList t) := by
  rwa [Inline, String.toList_ofList]

theorem Inline.append {s t : String} (hs : Inline s) (ht : Inline t) : Inline (s ++ t) := by
  rw [Inline, String.toList_append]
  exact ⟨List.not_mem_append hs.1 ht.1, List.not_mem_append hs.2 ht.2⟩

theorem Inline.plainCell {cell : String} (h : Inline cell)
    (hhead : ∀ c ∈ cell.toList.head?, Text.isBlank c = false)
    (hlast : ∀ c ∈ cell.toList.getLast?, Text.isBlank c = false) : PlainCell cell :=
  ⟨h.1, h.2, Text.trim_eq_iff.2 ⟨hhead, hlast⟩⟩

theorem PlainCell.inline {cell : String} (h : PlainCell cell) : Inline cell :=
  ⟨h.notMem_lf, h.notMem_bar⟩

theorem PlainCell.append {s t : String} (hs : PlainCell s) (ht : PlainCell t) :
    PlainCell (s ++ t) := by
  obtain ⟨hshead, hslast⟩ := Text.trim_eq_iff.1 hs.trim_eq
  obtain ⟨hthead, htlast⟩ := Text.trim_eq_iff.1 ht.trim_eq
  refine (hs.inline.append ht.inline).plainCell ?head ?last <;> rw [String.toList_append]
  case head =>
    intro c hc
    rw [List.head?_append, Option.mem_def, Option.or_eq_some_iff] at hc
    exact hc.elim (hshead c) fun hc => hthead c hc.2
  case last =>
    intro c hc
    rw [List.getLast?_append, Option.mem_def, Option.or_eq_some_iff] at hc
    exact hc.elim (htlast c) fun hc => hslast c hc.2

/-- A table of such cells, with as many in each row as there are titles. -/
structure Plain (t : Table) : Prop where
  /-- There are titles. -/
  titles_ne_nil : t.titles ≠ []
  /-- The titles are plain. -/
  titles : ∀ cell ∈ t.titles, PlainCell cell
  /-- The rows are plain. -/
  rows : ∀ row ∈ t.rows, ∀ cell ∈ row, PlainCell cell
  /-- The rows are as long as the titles. -/
  length_eq : ∀ row ∈ t.rows, row.length = t.titles.length

variable {widths : List Nat} {row : List String}

/-! ### Rows in boxes -/

/-- A line shows a row: it has the cells between bars, with blanks around them. -/
def ShowsRow (line : List Char) (row : List String) : Prop :=
  ∃ parts : List (List Char), parts ≠ [] ∧ line = '│' :: ['│'].intercalate parts ++ ['│'] ∧
    (∀ part ∈ parts, '│' ∉ part) ∧ parts.map Text.trim = row.map String.toList

/-- The lines that start with a bar. -/
def barLines (t : List Char) : List (List Char) :=
  (Text.lines t).filter fun line => line.head? = some '│'

/-- What is relied on of the drawing of tables: of a plain table, the lines that start with a bar
show the titles and the rows, in order. -/
def Boxes (draw : Table → String) : Prop :=
  ∀ t : Table, t.Plain → List.Forall₂ ShowsRow (barLines (draw t).toList) (t.titles :: t.rows)

theorem ShowsRow.readLine?_eq {line : List Char} (h : ShowsRow line row) :
    readLine? line = some row := by
  obtain ⟨parts, hne, rfl, hbar, htrim⟩ := h
  rw [List.cons_append, readLine?, List.dropLast_concat, List.splitOn_intercalate '│' hbar hne,
    htrim, List.map_map]
  simp

theorem readLines_eq_barLines (t : List Char) : readLines t = (barLines t).filterMap readLine? := by
  rw [readLines, barLines, List.filterMap_filter]
  refine List.filterMap_congr fun line _ => ?_
  split
  · rfl
  · next h =>
    rw [readLine?]
    rintro rest rfl
    exact h (by simp)

/-- **A plain table is read back** from what is drawn in this way. -/
theorem Boxes.read_eq {draw : Table → String} (h : Boxes draw) {t : Table} (ht : t.Plain) :
    read (draw t) = t.titles :: t.rows := by
  rw [read, readLines_eq_barLines]
  have hrows := h t ht
  generalize barLines (draw t).toList = lines at hrows
  generalize t.titles :: t.rows = rows at hrows
  induction hrows with
  | nil => rfl
  | cons hline _ ih => rw [List.filterMap_cons, hline.readLine?_eq, ih]

theorem barLines_append_lf {line : List Char} (hlf : '\n' ∉ line)
    (hcr : line.getLast? ≠ some '\r') (t : List Char) :
    barLines (line ++ '\n' :: t) =
      if line.head? = some '│' then line :: barLines t else barLines t := by
  rw [barLines, Text.lines_append_lf hlf, Text.dropReturn_of_ne hcr, List.filter_cons]
  simp only [decide_eq_true_eq]
  rfl

theorem notMem_intercalate {c : Char} {sep : List Char} {parts : List (List Char)} (hsep : c ∉ sep)
    (hparts : ∀ part ∈ parts, c ∉ part) : c ∉ sep.intercalate parts := by
  induction parts with
  | nil => exact List.not_mem_nil
  | cons part parts ih =>
    obtain ⟨hpart, hparts⟩ := List.forall_mem_cons.1 hparts
    cases parts with
    | nil => rwa [List.intercalate_singleton]
    | cons next parts =>
      rw [List.intercalate_cons_cons, List.mem_append, List.mem_append]
      rintro ((h | h) | h)
      · exact hpart h
      · exact hsep h
      · exact ih hparts h

/-! ### Rules -/

/-- The characters of a rule neither end a line nor stand between cells. -/
structure Ruling.Proper (r : Ruling) : Prop where
  /-- It is one line. -/
  notMem_lf : '\n' ∉ [r.line, r.junction, r.left, r.right]
  /-- It does not start like a row. -/
  left_ne : r.left ≠ '│'
  /-- It does not end in a carriage return. -/
  right_ne : r.right ≠ '\r'

/-- The rules of a table. -/
def rulings : List Ruling := [top, below, between, bottom]

theorem proper_of_mem {r : Ruling} (h : r ∈ rulings) : r.Proper := by
  simp only [rulings, List.mem_cons, List.not_mem_nil, or_false] at h
  rcases h with rfl | rfl | rfl | rfl <;> exact ⟨by decide, by decide, by decide⟩

/-- A rule does not start with a bar. -/
theorem barLines_drawRule {r : Ruling} (h : r ∈ rulings) (widths : List Nat) (t : List Char) :
    barLines (drawRule widths r ++ t) = barLines t := by
  have hr := proper_of_mem h
  generalize hcols : [r.junction].intercalate (widths.map fun w => List.replicate (w + 2) r.line) =
    cols
  have hline : drawRule widths r ++ t = (r.left :: cols ++ [r.right]) ++ '\n' :: t := by
    simp [drawRule, hcols]
  obtain ⟨hl, hj, hleft, hright⟩ : '\n' ≠ r.line ∧ '\n' ≠ r.junction ∧ '\n' ≠ r.left ∧
      '\n' ≠ r.right := by simpa using hr.notMem_lf
  have hlf : '\n' ∉ cols := by
    rw [← hcols]
    refine notMem_intercalate (by simpa using hj) fun part hpart => ?_
    obtain ⟨w, -, rfl⟩ := List.mem_map.1 hpart
    exact fun h => hl (List.eq_of_mem_replicate h)
  rw [hline, barLines_append_lf, if_neg]
  · simpa using hr.left_ne
  · simp [hlf, hleft, hright]
  · rw [List.getLast?_concat]
    simpa using hr.right_ne

/-! ### Rows -/

/-- A row of one line, without its end. -/
def rowLine (widths : List Nat) (row : List String) : List Char :=
  '│' :: ['│'].intercalate (List.zipWith drawLine widths (row.map String.toList)) ++ ['│']

/-- A cell has one line, or none if it is empty. -/
theorem PlainCell.cellLines_cases {cell : String} (h : PlainCell cell) :
    cellLines cell = [] ∧ cell.toList = [] ∨ cellLines cell = [cell.toList] := by
  by_cases hnil : cell.toList = []
  · exact .inl ⟨by rw [cellLines, hnil]; rfl, hnil⟩
  · exact .inr (Text.lines_of_notMem h.notMem_lf hnil)

theorem PlainCell.length_cellLines {cell : String} (h : PlainCell cell) :
    (cellLines cell).length ≤ 1 := by
  obtain ⟨hlines, -⟩ | hlines := h.cellLines_cases <;> simp [hlines]

theorem PlainCell.getD_cellLines {cell : String} (h : PlainCell cell) :
    (cellLines cell).getD 0 [] = cell.toList := by
  obtain ⟨hlines, hnil⟩ | hlines := h.cellLines_cases
  · simp [hlines, hnil]
  · simp [hlines]

/-- A row of cells with one line has one line. -/
theorem drawRow_eq (h : ∀ cell ∈ row, PlainCell cell) :
    drawRow widths row = rowLine widths row ++ ['\n'] := by
  have hheight : ((row.map cellLines).map List.length).foldl max 1 = 1 := by
    rw [List.map_map]
    induction row with
    | nil => rfl
    | cons cell row ih =>
      obtain ⟨hcell, hrow⟩ := List.forall_mem_cons.1 h
      rw [List.map_cons, List.foldl_cons, Function.comp, Nat.max_eq_left hcell.length_cellLines]
      exact ih hrow
  have hcells : row.map String.toList = (row.map cellLines).map (·.getD 0 []) := by
    rw [List.map_map]
    exact List.map_congr_left fun cell hcell => (h cell hcell).getD_cellLines.symm
  rw [drawRow, hheight, rowLine, hcells, List.zipWith_map_right]
  simp [drawRowLine]

theorem trim_drawLine (width : Nat) {line : List Char} (h : Text.trim line = line) :
    Text.trim (drawLine width line) = line := by
  have hfill : ∀ c ∈ List.replicate (width - Text.shownColumns line) ' ' ++ [' '],
      Text.isBlank c := by
    intro c hc
    rw [← List.replicate_succ'] at hc
    exact Text.isBlank_of_mem_spaces hc
  have hfirst : ∀ c ∈ [' '], Text.isBlank c := List.forall_mem_singleton.2 rfl
  have htrim := Text.trim_append hfirst hfill line
  rwa [h, ← List.append_assoc] at htrim

theorem map_trim_zipWith {texts : List (List Char)} (h : ∀ t ∈ texts, Text.trim t = t)
    (hlen : widths.length = texts.length) :
    (List.zipWith drawLine widths texts).map Text.trim = texts := by
  induction texts generalizing widths with
  | nil => simp
  | cons t texts ih =>
    obtain ⟨ht, htexts⟩ := List.forall_mem_cons.1 h
    cases widths with
    | nil => simp at hlen
    | cons w widths =>
      rw [List.zipWith_cons_cons, List.map_cons, trim_drawLine w ht,
        ih htexts (Nat.succ.inj hlen)]

theorem notMem_drawLine {c : Char} (hc : c ≠ ' ') {line : List Char} (h : c ∉ line) (width : Nat) :
    c ∉ drawLine width line := by
  simp [drawLine, hc, h, List.mem_replicate]

theorem notMem_cells {c : Char} (hc : c ≠ ' ') (h : ∀ cell ∈ row, c ∉ cell.toList)
    (widths : List Nat) :
    ∀ part ∈ List.zipWith drawLine widths (row.map String.toList), c ∉ part := by
  intro part hpart
  obtain ⟨i, hi, rfl⟩ := List.getElem_of_mem hpart
  rw [List.getElem_zipWith, List.getElem_map]
  exact notMem_drawLine hc (h _ (List.getElem_mem _)) _

theorem showsRow_rowLine (h : ∀ cell ∈ row, PlainCell cell) (hlen : widths.length = row.length)
    (hne : row ≠ []) : ShowsRow (rowLine widths row) row := by
  refine ⟨_, ?_, rfl, ?_, ?_⟩
  · rw [← List.length_pos_iff, List.length_zipWith, List.length_map, hlen, Nat.min_self]
    exact List.length_pos_iff.2 hne
  · exact notMem_cells (by decide) (fun cell hcell => (h cell hcell).notMem_bar) widths
  · exact map_trim_zipWith (by simpa using fun cell hcell => (h cell hcell).trim_eq)
      (by rw [hlen, List.length_map])

/-- A row is a line that starts with a bar. -/
theorem barLines_drawRow (h : ∀ cell ∈ row, PlainCell cell) (t : List Char) :
    barLines (drawRow widths row ++ t) = rowLine widths row :: barLines t := by
  have hlf := notMem_cells (by decide) (fun cell hcell => (h cell hcell).notMem_lf) widths
  have hcr : (rowLine widths row).getLast? = some '│' := List.getLast?_concat ..
  rw [drawRow_eq h, List.append_assoc, List.singleton_append, barLines_append_lf, if_pos]
  · rfl
  · simp [rowLine, notMem_intercalate _ hlf]
  · simp [hcr]

/-- The rules between rows make no difference. -/
theorem barLines_drawRows {rows : List (List String)}
    (h : ∀ row ∈ rows, ∀ cell ∈ row, PlainCell cell) (t : List Char) :
    barLines (drawRows widths rows ++ t) = rows.map (rowLine widths) ++ barLines t := by
  unfold drawRows
  induction rows with
  | nil => rfl
  | cons row rows ih =>
    obtain ⟨hcells, h⟩ := List.forall_mem_cons.1 h
    cases rows with
    | nil =>
      rw [List.map_singleton, List.intercalate_singleton, barLines_drawRow hcells]
      rfl
    | cons next rows =>
      rw [List.map_cons, List.map_cons, List.intercalate_cons_cons, List.append_assoc,
        List.append_assoc, barLines_drawRow hcells, barLines_drawRule (by simp [rulings]),
        ← List.map_cons, ih h]
      rfl

theorem Plain.length_widths {t : Table} (h : t.Plain) : t.widths.length = t.titles.length := by
  have hfold (rows : List (List String)) (widths : List Nat)
      (hrows : ∀ row ∈ rows, row.length = widths.length) :
      (rows.foldl widen widths).length = widths.length := by
    induction rows generalizing widths with
    | nil => rfl
    | cons row rows ih =>
      obtain ⟨hrow, hrows⟩ := List.forall_mem_cons.1 hrows
      have hw : (widen widths row).length = widths.length := by
        rw [widen, List.length_zipWith, hrow, Nat.min_self]
      rw [List.foldl_cons, ih _ (by rwa [hw]), hw]
  rw [Table.widths, hfold _ _ (by simpa using h.length_eq), List.length_map]

theorem boxes_draw : Boxes draw := by
  intro t h
  have hlen := h.length_widths
  have hshows {row : List String} (hrow : ∀ cell ∈ row, PlainCell cell)
      (hl : row.length = t.titles.length) : ShowsRow (rowLine t.widths row) row := by
    refine showsRow_rowLine hrow (hlen.trans hl.symm) ?_
    rw [← List.length_pos_iff, hl]
    exact List.length_pos_iff.2 h.titles_ne_nil
  have hbottom := @barLines_drawRule bottom (by simp [rulings]) t.widths []
  have hlines : barLines t.draw.toList =
      (t.titles :: t.rows).map (rowLine t.widths) := by
    rw [List.append_nil] at hbottom
    simp only [draw, String.toList_ofList, List.append_assoc]
    rw [barLines_drawRule (by simp [rulings]), barLines_drawRow h.titles,
      barLines_drawRule (by simp [rulings]), barLines_drawRows h.rows, hbottom]
    exact congrArg _ (List.append_nil _)
  rw [hlines, List.forall₂_map_left_iff, List.forall₂_same]
  intro row hrow
  obtain rfl | hrow := List.mem_cons.1 hrow
  · exact hshows h.titles rfl
  · exact hshows (h.rows row hrow) (h.length_eq row hrow)

/-- A plain table is read back from its drawing. -/
theorem read_draw {t : Table} (h : t.Plain) : read t.draw = t.titles :: t.rows :=
  boxes_draw.read_eq h

end StyleAudit.Table
