import HelpPages.Proofs.Table.Alignment
import Mathlib.Algebra.Ring.Nat

/-! # Rules and tab stops

With a border and without a frame the cells of a row are set apart by tabs, so the column at
which a row ends on a screen hangs on how far each tab goes (`columnAfter`).  A rule is as long
as the widths of the columns come to when each of them is rounded up to a tab stop.  That is
less than the rows need when a tab goes further than the rounding: behind a first cell that the
bar and the blank before it move over a tab stop, and behind a later cell that ends at one, from
where the tab goes on by a whole stop (`endColumn_le_iff`).  `Config.draw_enclosed` says which
tables have rules that are as long as their rows.
-/
namespace HelpPages

namespace Table

/-! ### Columns of a screen -/

/-- The first tab stop behind a column. -/
def nextStop (column : Nat) : Nat := (column / tabStop.toNat + 1) * tabStop.toNat

/-- The column behind a character that is shown at a column: a tab goes on to the next tab
stop. -/
def nextColumn (column : Nat) (c : CodePoint) : Nat :=
  if c = '\t' then nextStop column else column + 1

/-- The column behind a text that is shown from a column on. -/
def columnAfter (column : Nat) (t : Text) : Nat := t.foldl nextColumn column

/-- A printable character of ASCII, the blank among them. -/
def isPrintableAscii : CodePoint → Bool := Text.inRanges [(0x20, 0x7E)]

theorem nextStop_eq (column : Nat) : nextStop column = (column / 8 + 1) * 8 := rfl

theorem columnAfter_append (column : Nat) (s t : Text) :
    columnAfter column (s ++ t) = columnAfter (columnAfter column s) t :=
  List.foldl_append

/-- Without tabs every character takes one column. -/
theorem columnAfter_of_notMem {t : Text} (h : CodePoint.char '\t' ∉ t) (column : Nat) :
    columnAfter column t = column + t.length := by
  induction t generalizing column with
  | nil => rfl
  | cons c t ih =>
    obtain ⟨hc, ht⟩ := not_or.mp (mt List.mem_cons.mpr h)
    have hstep : nextColumn column c = column + 1 := if_neg (Ne.symm hc)
    rw [columnAfter, List.foldl_cons, hstep, ← columnAfter, ih ht, List.length_cons]
    omega

/-- The column behind cells of some lengths with a tab between neighbours, the first of them
shown from a column on. -/
def endColumn (column : Nat) : List Nat → Nat
  | [] => column
  | [w] => column + w
  | w :: v :: ws => endColumn (nextStop (column + w)) (v :: ws)

theorem columnAfter_joinWith {cells : List Text} (h : ∀ cell ∈ cells, CodePoint.char '\t' ∉ cell)
    (column : Nat) :
    columnAfter column (Text.joinWith "\t" cells) = endColumn column (cells.map List.length) := by
  induction cells generalizing column with
  | nil => rfl
  | cons cell cells ih =>
    obtain ⟨hcell, hcells⟩ := List.forall_mem_cons.mp h
    cases cells with
    | nil =>
      rw [Text.joinWith_singleton, columnAfter_of_notMem hcell]
      rfl
    | cons next cells =>
      have htab : ∀ column, columnAfter column "\t" = nextStop column := fun _ => rfl
      rw [Text.joinWith_cons _ _ (List.cons_ne_nil _ _), columnAfter_append, columnAfter_append,
        columnAfter_of_notMem hcell, htab, ih hcells]
      rfl

/-! ### Printable cells -/

theorem tab_notMem_of_printable {t : Text} (h : ∀ c ∈ t, isPrintableAscii c = true) :
    CodePoint.char '\t' ∉ t :=
  fun hmem => absurd (h _ hmem) (by decide)

theorem exists_char_of_printable {c : CodePoint} (h : isPrintableAscii c = true) :
    ∃ d : Char, c = .char d ∧ d.val ≤ 0x7F := by
  simp only [isPrintableAscii, Text.inRanges, List.any_cons, List.any_nil, Bool.or_false,
    Bool.and_eq_true, decide_eq_true_eq] at h
  cases c with
  | char d =>
    refine ⟨d, rfl, ?_⟩
    show d.toNat ≤ 0x7F
    exact Nat.le_trans h.2 (by decide)
  | half distance =>
    simp only [CodePoint.toNat] at h
    omega

/-- A printable character of ASCII has one byte. -/
theorem utf8Size_of_printable {c : CodePoint} (h : isPrintableAscii c = true) :
    c.utf8Size = 1 := by
  obtain ⟨d, rfl, hd⟩ := exists_char_of_printable h
  exact Char.utf8Size_eq_one_iff.mpr hd

theorem isEncodable_of_printable {t : Text} (h : ∀ c ∈ t, isPrintableAscii c = true) :
    t.isEncodable = true := by
  refine List.all_eq_true.mpr fun c hc => ?_
  obtain ⟨d, rfl, -⟩ := exists_char_of_printable (h c hc)
  rfl

theorem width_of_printable {t : Text} (h : ∀ c ∈ t, isPrintableAscii c = true) :
    Text.width t = t.length := by
  induction t with
  | nil => rfl
  | cons c t ih =>
    obtain ⟨hc, ht⟩ := List.forall_mem_cons.mp h
    rw [Text.width_cons, utf8Size_of_printable hc, ih ht, List.length_cons, Nat.add_comm]

/-! ### Where rows and rules end -/

/-- A width rounded up to a tab stop. -/
def roundUp (w : Nat) : Nat := (w + 7) / 8 * 8

theorem roundToTabStop_natCast (w : Nat) : roundToTabStop w = (roundUp w : Nat) := by
  simp only [roundToTabStop, tabStop, roundUp]
  omega

/-- The dashes of a rule, counted column by column. -/
theorem dashCount_cons (w : Nat) (ws : List Nat) :
    Config.dashCount ((w :: ws).map Nat.cast) =
      ((roundUp (w + 1) + (ws.map roundUp).sum : Nat) : Int) := by
  have hrest : ∀ ws : List Nat, (ws.map (Nat.cast : Nat → Int)).foldr
      (fun w dashes => roundToTabStop w + dashes) 0 = ((ws.map roundUp).sum : Nat) := by
    intro ws
    induction ws with
    | nil => rfl
    | cons v ws ih =>
      rw [List.map_cons, List.foldr_cons, ih, roundToTabStop_natCast, List.map_cons,
        List.sum_cons, Int.natCast_add]
  have hfirst : roundToTabStop ((w : Int) + 1) = (roundUp (w + 1) : Nat) :=
    roundToTabStop_natCast (w + 1)
  rw [List.map_cons, Config.dashCount, hrest, hfirst, Int.natCast_add]

/-- A rule that counts the widths of columns from a tab stop on reaches the end of cells that
are shown `excess` stops further right exactly if the excess is none and no cell but the last
one ends at a tab stop, where the tab behind it would add to the excess. -/
theorem endColumn_le_iff_of_stop (stop excess w : Nat) (ws : List Nat) :
    endColumn (8 * stop + 8 * excess) (w :: ws) ≤ 8 * stop + ((w :: ws).map roundUp).sum ↔
      excess = 0 ∧ ∀ v ∈ (w :: ws).dropLast, v % 8 ≠ 0 := by
  induction ws generalizing stop excess w with
  | nil =>
    have hnone : ∀ v ∈ [w].dropLast, v % 8 ≠ 0 := nofun
    rw [and_iff_left hnone, endColumn, List.map_singleton, List.sum_singleton, roundUp]
    omega
  | cons v ws ih =>
    -- what the tab behind the first cell adds to the excess
    let more := if w % 8 = 0 then 1 else 0
    have hstop : nextStop (8 * stop + 8 * excess + w) =
        8 * (stop + (w + 7) / 8) + 8 * (excess + more) := by
      simp only [nextStop_eq, more]
      split <;> omega
    have hsum : 8 * stop + ((w :: v :: ws).map roundUp).sum =
        8 * (stop + (w + 7) / 8) + ((v :: ws).map roundUp).sum := by
      rw [List.map_cons, List.sum_cons, roundUp]
      omega
    have hmore : excess + more = 0 ↔ excess = 0 ∧ w % 8 ≠ 0 := by
      simp only [more]
      split <;> omega
    rw [endColumn, hstop, hsum, ih, hmore, List.dropLast_cons_of_ne_nil (List.cons_ne_nil v ws),
      List.forall_mem_cons, and_assoc]

/-- The widths of columns leave the rows of a table no longer than its rules.  A single column
has room for the blanks and the bars around it unless it lacks one character to a tab stop.
The first one of several columns ends with the blank and the bar before it where its tab goes to
the stop that the rule counts, and no column between the first and the last one ends at a tab
stop. -/
def IsEnclosed : List Nat → Prop
  | [] => False
  | [w] => w % 8 ≠ 7
  | w :: v :: ws => w % 8 < 6 ∧ ∀ u ∈ (v :: ws).dropLast, u % 8 ≠ 0

/-- **Where a row ends and where a rule ends.** -/
theorem endColumn_le_iff (ws : List Nat) :
    endColumn 2 ws + 2 ≤ 2 + (Config.dashCount (ws.map Nat.cast)).toNat ↔ IsEnclosed ws := by
  match ws with
  | [] =>
    rw [List.map_nil, Config.dashCount, endColumn, IsEnclosed, iff_false]
    decide
  | [w] =>
    rw [dashCount_cons, Int.toNat_natCast, List.map_nil, List.sum_nil, endColumn, roundUp,
      IsEnclosed]
    omega
  | w :: v :: ws =>
    have hstop : nextStop (2 + w) =
        8 * ((w + 8) / 8) + 8 * (if w % 8 < 6 then 0 else 1) := by
      rw [nextStop_eq]
      split <;> omega
    have hexcess : (if w % 8 < 6 then 0 else 1) = 0 ↔ w % 8 < 6 := by
      split <;> simp_all
    have hsum : roundUp (w + 1) + ((v :: ws).map roundUp).sum =
        8 * ((w + 8) / 8) + ((v :: ws).map roundUp).sum := by
      rw [roundUp]
      omega
    rw [dashCount_cons, Int.toNat_natCast, endColumn, hstop, hsum, Nat.add_comm 2,
      Nat.add_le_add_iff_right, endColumn_le_iff_of_stop, hexcess, IsEnclosed]

namespace Config

variable {config : Config} {columns : List Column} {row : List Text}

/-- Printable rows that fit their columns end where their widths say. -/
theorem columnAfter_rowText (hborder : config.border = true) (hframe : config.frame = false)
    (fits : ∀ c ∈ columns, Text.width (cellAt row c.index) ≤ c.width)
    (printable : ∀ cell ∈ row, ∀ d ∈ cell, isPrintableAscii d = true) :
    columnAfter 0 (config.rowText columns row) = endColumn 2 (columns.map Column.width) + 2 := by
  have hcells : ∀ c ∈ columns, ∀ d ∈ config.cell row c, isPrintableAscii d = true := by
    intro c _ d hd
    rcases mem_cell hd with rfl | ⟨cell, hcell, hd⟩
    · decide
    · exact printable cell hcell d hd
  have hlengths : (columns.map (config.cell row)).map List.length =
      columns.map Column.width := by
    rw [List.map_map]
    refine List.map_congr_left fun c hc => ?_
    have hwidth : Text.width (config.cell row c) = _ := width_cell (fits c hc)
    rw [width_of_printable (hcells c hc), side, hframe] at hwidth
    exact hwidth.trans (by simp)
  have htabs : ∀ cell ∈ columns.map (config.cell row), CodePoint.char '\t' ∉ cell := by
    intro cell hcell
    obtain ⟨c, hc, rfl⟩ := List.mem_map.mp hcell
    exact tab_notMem_of_printable (hcells c hc)
  have hopening : config.opening = ("| " : Text) := by rw [opening, hborder, hframe]; rfl
  have hclosing : config.closing = (" |" : Text) := by rw [closing, hborder, hframe]; rfl
  have hseparator : config.separator = ("\t" : Text) := by rw [separator, hframe]; rfl
  have hbefore : columnAfter 0 "| " = 2 := by decide
  rw [rowText, hopening, hclosing, hseparator, columnAfter_append, columnAfter_append, hbefore,
    columnAfter_joinWith htabs, hlengths, columnAfter_of_notMem (by decide)]
  rfl

theorem length_ruleText (hborder : config.border = true) (hframe : config.frame = false)
    (columns : List Column) :
    (config.ruleText columns).length =
      2 + (dashCount ((columns.map Column.width).map Nat.cast)).toNat := by
  have hruled : config.isRuled = true := by rw [isRuled, hborder, Bool.true_or]
  have hruns : config.dashRuns (columns.map fun c => (c.width : Int)) =
      [dashCount ((columns.map Column.width).map Nat.cast)] := by
    rw [dashRuns, if_neg (by rw [hframe]; exact Bool.false_ne_true), List.map_map]
    rfl
  rw [ruleText, if_pos hruled, hruns, List.map_singleton, List.map_singleton,
    Text.joinWith_singleton, List.length_append, List.length_append, List.length_replicate]
  show 1 + _ + 1 = _
  omega

/-- Printable cells have widths, so only a cell without a text is wrong. -/
theorem fault?_of_printable {rows : List (List Value)}
    (printable : ∀ row ∈ rows, ∀ value ∈ row, ∀ c ∈ cellText value, isPrintableAscii c = true) :
    fault? rows = none ↔ ∀ row ∈ rows, ∀ value ∈ row, value.isWritable = true := by
  rw [fault?_eq_none_iff]
  exact forall₂_congr fun row hrow => forall₂_congr fun value hvalue =>
    and_iff_left (isEncodable_of_printable (printable row hrow value hvalue))

/-- **When the rules of a table enclose its rows.**  Rows of any lengths whose cells show
printable characters of ASCII are drawn with a border and without a frame, if all cells have
texts: one line for each row, with a rule above, below and under the header.  Shown from the first
column of a screen on, with a tab stop every eight columns, a row ends no further right than a rule
exactly if the widths of the columns that are drawn allow it. -/
theorem draw_enclosed (config : Config) (rows : List (List Value)) (hborder : config.border = true)
    (hframe : config.frame = false)
    (printable : ∀ row ∈ rows, ∀ value ∈ row, ∀ c ∈ cellText value, isPrintableAscii c = true) :
    (config.drawValues rows).outcome =
        (fault? rows).elim (.ok (config.render (texts rows))) .error ∧
      (fault? rows = none ↔ ∀ row ∈ rows, ∀ value ∈ row, value.isWritable = true) ∧
      ∃ rule lines,
        Text.splitOn '\n' (config.render (texts rows)) = config.arrange rule lines ++ [[]] ∧
        lines.length = rows.length ∧
        ∀ line ∈ lines, columnAfter 0 line ≤ rule.length ↔
          IsEnclosed ((config.columns (columnWidths (texts rows))).map Column.width) := by
  have hprintable : ∀ row ∈ texts rows, ∀ cell ∈ row, ∀ c ∈ cell, isPrintableAscii c = true :=
    forall_texts.mpr printable
  have hline : ∀ row ∈ texts rows, ∀ cell ∈ row, CodePoint.char '\n' ∉ cell :=
    fun row hrow cell hcell hmem => absurd (hprintable row hrow cell hcell _ hmem) (by decide)
  have hlayout := render_isLayout config hline
  refine ⟨config.outcome_drawValues rows, fault?_of_printable printable, _, _, hlayout.text, ?_, ?_⟩
  · rw [hlayout.length_eq, texts, List.length_map]
  · intro line hmem
    obtain ⟨row, hrow, rfl⟩ := List.mem_map.mp hmem
    rw [columnAfter_rowText hborder hframe (fits_columns hrow) (hprintable row hrow),
      length_ruleText hborder hframe, endColumn_le_iff]

/-- Rows of two lengths.  The last column ends at a tab stop, and no tab stands behind it. -/
def shortRows : List (List Value) :=
  [[.text "name", .text "size", .text "modified"], [.text "a.txt", .int 1234567]]

/-- A border around rows with a header. -/
def borderConfig : Config := { border := true, header := true }

theorem draw_enclosed_shortRows :
    borderConfig.border = true ∧ borderConfig.frame = false ∧
      (∀ row ∈ shortRows, ∀ value ∈ row, ∀ c ∈ cellText value, isPrintableAscii c = true) ∧
      (borderConfig.columns (columnWidths (texts shortRows))).map Column.width = [5, 7, 8] ∧
      IsEnclosed [5, 7, 8] ∧
      (borderConfig.drawValues shortRows).outcome =
        .ok (borderConfig.render (texts shortRows)) ∧
      ∃ rule lines,
        Text.splitOn '\n' (borderConfig.render (texts shortRows)) =
          borderConfig.arrange rule lines ++ [[]] ∧
        lines.length = shortRows.length ∧
        ∀ line ∈ lines, columnAfter 0 line ≤ rule.length ↔
          IsEnclosed
            ((borderConfig.columns (columnWidths (texts shortRows))).map Column.width) := by
  have hprintable : ∀ row ∈ shortRows, ∀ value ∈ row, ∀ c ∈ cellText value,
      isPrintableAscii c = true := by decide
  obtain ⟨houtcome, hfault, hlines⟩ := draw_enclosed borderConfig shortRows rfl rfl hprintable
  rw [hfault.mpr (by decide)] at houtcome
  exact ⟨rfl, rfl, hprintable, by decide, ⟨by decide, by decide⟩, houtcome, hlines⟩

/-- A row with one cell of seven characters is longer than its rules. -/
theorem not_enclosed_seven :
    let config : Config := { border := true }
    let rows : List (List Value) := [[.text "abcdefg"]]
    (∀ row ∈ rows, ∀ value ∈ row, ∀ c ∈ cellText value, isPrintableAscii c = true) ∧
      (config.drawValues rows).outcome = .ok (config.render (texts rows)) ∧
      Text.splitOn '\n' (config.render (texts rows)) =
        ["+--------+", "| abcdefg |", "+--------+", ""] ∧
      ¬ columnAfter 0 "| abcdefg |" ≤ ("+--------+" : Text).length :=
  ⟨by decide, rfl, by decide, by decide⟩

end Config
end Table
end HelpPages
