import HelpPages.Proofs.Program.Tables
import HelpPages.Proofs.Table.Box

/-! # Records on lines

A field between quotes may hold a line feed, and a table is drawn as if every cell stood on one
line.  The line of a row is torn there: a table has one line more for every line feed in its
cells (`Table.Config.length_tornLines`), and in a box the parts of a torn line are shorter than
the rules (`Table.Config.isStraight_tornLines_iff`).  So the records of a file have a line each
exactly if no field holds a line feed (`Call.run_csv_lines`).
-/
namespace HelpPages

namespace Text

/-- Texts that are cut one by one have a piece each, and one more for every separator. -/
theorem length_flatMap_splitOn (c : CodePoint) (ts : List Text) :
    (ts.flatMap (splitOn c)).length = ts.length + ts.flatten.count c := by
  induction ts with
  | nil => rfl
  | cons t ts ih =>
    rw [List.flatMap_cons, List.length_append, ih, length_splitOn, List.flatten_cons,
      List.count_append, List.length_cons]
    omega

/-- A text with a separator has a piece of fewer bytes. -/
theorem exists_shorter_of_mem {x : Char} {t : Text} (h : CodePoint.char x ∈ t) :
    ∃ piece ∈ splitOn (.char x) t, (toUtf8 piece).length < (toUtf8 t).length := by
  obtain ⟨before, behind, rfl, hfree⟩ := List.eq_append_cons_of_mem h
  refine ⟨before, ?_, ?_⟩
  · rw [splitOn_append, splitOn_of_notMem hfree]
    exact List.mem_cons_self ..
  · have hbytes : 0 < (toUtf8 [CodePoint.char x]).length := by
      rw [length_toUtf8 rfl]
      exact Char.utf8Size_pos x
    rw [← List.singleton_append, toUtf8_append, toUtf8_append, List.length_append,
      List.length_append]
    omega

end Text

/-! ### Lines that are torn -/

namespace Table

variable {rows : List (List Text)} {row : List Text}

/-- No cell of the rows goes on in another line. -/
def AreOneLined (rows : List (List Text)) : Prop :=
  ∀ row ∈ rows, ∀ cell ∈ row, CodePoint.char '\n' ∉ cell

instance : Decidable (AreOneLined rows) :=
  inferInstanceAs (Decidable (∀ row ∈ rows, ∀ cell ∈ row, CodePoint.char '\n' ∉ cell))

/-- How many line feeds stand in the cells of some rows. -/
def feedCount (rows : List (List Text)) : Nat := rows.flatten.flatten.count (.char '\n')

theorem feedCount_eq_zero_iff : feedCount rows = 0 ↔ AreOneLined rows := by
  rw [feedCount, List.count_eq_zero, AreOneLined]
  simp only [List.mem_flatten]
  grind

namespace Config

variable {config : Config}

/-- The number of rules in a table of some rows. -/
def ruleCount (config : Config) (n : Nat) : Nat :=
  (if config.isRuled then 2 else 0) + if config.header && 0 < n then 1 else 0

theorem length_arrange (config : Config) (rule : Text) (lines : List Text) :
    (config.arrange rule lines).length = lines.length + config.ruleCount lines.length := by
  cases lines <;> cases hruled : config.isRuled <;> cases hheader : config.header <;>
    simp [arrange, ruleCount, hruled, hheader]

theorem mem_arrange_of_mem (rule : Text) {line : Text} {lines : List Text} (h : line ∈ lines) :
    line ∈ config.arrange rule lines := by
  cases lines with
  | nil => cases h
  | cons first rest =>
    refine List.mem_append_left _ (List.mem_append_right _ ?_)
    rcases List.mem_cons.mp h with rfl | h
    · exact List.mem_cons_self ..
    · exact List.mem_cons_of_mem _ (List.mem_append_right _ h)

/-- Rules add nothing but what they are drawn with. -/
theorem count_arrange {rule : Text} {d : CodePoint} (h : d ∉ rule) (lines : List Text) :
    (config.arrange rule lines).flatten.count d = lines.flatten.count d := by
  have hrule : rule.count d = 0 := List.count_eq_zero.mpr h
  cases lines <;> cases hruled : config.isRuled <;> cases hheader : config.header <;>
    simp [arrange, hruled, hheader, hrule]

/-- **Nothing of a row is left out.**  The cells in the columns that are drawn are together the
whole text of the row. -/
theorem flatMap_cellAt_columns (config : Config) (hrow : row ∈ rows) :
    (config.columns (columnWidths rows)).flatMap (fun c => cellAt row c.index) = row.flatten := by
  -- a column that is not drawn has no width, so the cell in it is empty
  have hdrawn : ∀ columns : List Column, (∀ c ∈ columns, c ∈ allColumns (columnWidths rows)) →
      (columns.filter fun c => !config.skipEmpty || 0 < c.width).flatMap
          (fun c => cellAt row c.index) =
        columns.flatMap fun c => cellAt row c.index := by
    intro columns hcolumns
    induction columns with
    | nil => rfl
    | cons c columns ih =>
      obtain ⟨hc, hcolumns⟩ := List.forall_mem_cons.mp hcolumns
      rw [List.filter_cons, List.flatMap_cons, ← ih hcolumns]
      split
      · rfl
      · next hskipped =>
        have hwidth : (columnWidths rows).getD c.index 0 = 0 := by
          rw [List.getD_eq_getElem?_getD, mem_allColumns.mp hc]
          simpa using (Bool.or_eq_false_iff.mp (Bool.eq_false_iff.mpr hskipped)).2
        rw [getD_columnWidths_eq_zero_iff.mp hwidth row hrow, List.nil_append]
  calc (config.columns (columnWidths rows)).flatMap (fun c => cellAt row c.index)
      = (allColumns (columnWidths rows)).flatMap fun c => cellAt row c.index :=
        hdrawn _ fun _ hc => hc
    _ = (((allColumns (columnWidths rows)).map Column.index).map (cellAt row)).flatten := by
        rw [List.map_map]
        rfl
    _ = (completed (columnWidths rows).length row).flatten := by
        rw [index_allColumns, map_cellAt_range (length_le_columnWidths hrow)]
    _ = row.flatten := by
        rw [completed, List.flatten_append, List.flatten_replicate_nil, List.append_nil]

/-- The line of a row has the line feeds of its cells. -/
theorem count_rowText (config : Config) (hrow : row ∈ rows) :
    (config.rowText (config.columns (columnWidths rows)) row).count (.char '\n') =
      row.flatten.count (.char '\n') := by
  have hfeed : CodePoint.char '\n' ∉ drawing := by decide
  have hopening : config.opening.count (.char '\n') = 0 :=
    List.count_eq_zero.mpr (mt (config.opening_subset ·) hfeed)
  have hclosing : config.closing.count (.char '\n') = 0 :=
    List.count_eq_zero.mpr (mt (config.closing_subset ·) hfeed)
  have hseparator : CodePoint.char '\n' ∉ config.separator :=
    mt (config.separator_subset ·) hfeed
  have hside : config.side.count (.char '\n') = 0 := by
    rw [side]; split <;> decide
  have hcell : List.count (.char '\n') ∘ config.cell row =
      List.count (.char '\n') ∘ fun c => cellAt row c.index := by
    funext c
    have hfill : ∀ n, (Text.spaces n).count (.char '\n') = 0 := fun n =>
      List.count_eq_zero.mpr fun hmem => absurd (List.eq_of_mem_replicate hmem) (by decide)
    rw [Function.comp_apply, cell_eq, Text.padRight, List.count_append, List.count_append,
      List.count_append, hside, hfill]
    simp
  rw [rowText, List.count_append, List.count_append, hopening, hclosing,
    Text.count_joinWith hseparator, List.count_flatten, List.map_map, hcell,
    ← List.count_flatMap, flatMap_cellAt_columns config hrow]
  omega

/-- The lines that are printed of a table: its own, torn at the line feeds in its cells. -/
def tornLines (config : Config) (rows : List (List Text)) : List Text :=
  (config.arrange (config.ruleText (config.columns (columnWidths rows)))
    (rows.map (config.rowText (config.columns (columnWidths rows))))).flatMap (Text.splitOn '\n')

theorem splitOn_render (config : Config) (rows : List (List Text)) :
    Text.splitOn '\n' (config.render rows) = config.tornLines rows ++ [[]] := by
  have htorn := Text.splitOn_flatMap_torn '\n' (config.arrange
    (config.ruleText (config.columns (columnWidths rows)))
    (rows.map (config.rowText (config.columns (columnWidths rows))))) []
  rw [List.append_nil] at htorn
  rw [render, lines_eq, ← List.flatMap_def]
  exact htorn

theorem feed_notMem_ruleText (config : Config) (columns : List Column) :
    CodePoint.char '\n' ∉ config.ruleText columns := by
  intro hmem
  rcases mem_ruleText hmem with he | he <;> exact absurd he (by decide)

/-- A table has a line for each row and each rule, and one more for every line feed in a cell. -/
theorem length_tornLines (config : Config) (rows : List (List Text)) :
    (config.tornLines rows).length =
      rows.length + config.ruleCount rows.length + feedCount rows := by
  have hfeeds : (rows.map (config.rowText (config.columns (columnWidths rows)))).flatten.count
      (.char '\n') = feedCount rows := by
    have hrows : rows.map (List.count (.char '\n') ∘
          config.rowText (config.columns (columnWidths rows))) =
        rows.map (List.count (.char '\n') ∘ List.flatten) :=
      List.map_congr_left fun row hrow => count_rowText config hrow
    rw [List.count_flatten, List.map_map, hrows, ← List.map_map, ← List.count_flatten, feedCount,
      List.flatten_flatten]
  rw [tornLines, Text.length_flatMap_splitOn, length_arrange,
    count_arrange (feed_notMem_ruleText config _), hfeeds, List.length_map]

/-- Without line feeds in the cells the lines are the table's own. -/
theorem tornLines_of_areOneLined (h : AreOneLined rows) :
    config.tornLines rows = config.arrange (config.ruleText (config.columns (columnWidths rows)))
      (rows.map (config.rowText (config.columns (columnWidths rows)))) :=
  List.append_cancel_right ((splitOn_render config rows).symm.trans (render_isLayout config h).text)

/-- The lines are one for each row, between the rules of a table. -/
def IsLinePerRow (config : Config) (rows : List (List Text)) (printed : List Text) : Prop :=
  ∃ rule lines, lines.length = rows.length ∧ printed = config.arrange rule lines

/-- Every row has one line exactly if no cell goes on in another one. -/
theorem isLinePerRow_tornLines_iff :
    config.IsLinePerRow rows (config.tornLines rows) ↔ AreOneLined rows := by
  constructor
  · rintro ⟨rule, lines, hlength, hlines⟩
    have htotal := length_tornLines config rows
    rw [hlines, length_arrange, hlength] at htotal
    exact feedCount_eq_zero_iff.mp (by omega)
  · intro honeLined
    exact ⟨_, _, List.length_map _, tornLines_of_areOneLined honeLined⟩

/-! ### Boxes with torn lines -/

/-- Lines that have the same number of bytes. -/
def IsStraight (lines : List Text) : Prop :=
  ∀ line ∈ lines, ∀ other ∈ lines, (Text.toUtf8 line).length = (Text.toUtf8 other).length

/-- In a box the line of a row has as many bytes as the rule. -/
theorem length_toUtf8_rowText (hborder : config.border = true) (hframe : config.frame = true)
    (hmeasurable : isMeasurable rows = true) (hrow : row ∈ rows) :
    (Text.toUtf8 (config.rowText (config.columns (columnWidths rows)) row)).length =
      (Text.toUtf8 (config.ruleText (config.columns (columnWidths rows)))).length := by
  have hencodable := List.all_eq_true.mp (List.all_eq_true.mp hmeasurable row hrow)
  have hunder : IsUnder True (config.ruleText (config.columns (columnWidths rows)))
      (config.rowText (config.columns (columnWidths rows)) row) :=
    under_rowText hborder hframe (fits_columns hrow) hencodable fun _ _ _ => trivial
  exact hunder.isBoxed.length_eq

/-- A box is straight exactly if no cell goes on in another line. -/
theorem isStraight_tornLines_iff (hborder : config.border = true) (hframe : config.frame = true)
    (hmeasurable : isMeasurable rows = true) :
    IsStraight (config.tornLines rows) ↔ AreOneLined rows := by
  let rule := config.ruleText (config.columns (columnWidths rows))
  have hrule : rule ∈ config.tornLines rows := by
    have hedge : rule ∈ config.arrange rule
        (rows.map (config.rowText (config.columns (columnWidths rows)))) := by
      simp [arrange, isRuled, hborder]
    refine List.mem_flatMap.mpr ⟨rule, hedge, ?_⟩
    rw [Text.splitOn_of_notMem (feed_notMem_ruleText config _)]
    exact List.mem_singleton_self _
  constructor
  · intro hstraight row hrow cell hcell hfeed
    -- the first part of a torn line is shorter than the line, and so than the rule
    have hmem : CodePoint.char '\n' ∈ config.rowText (config.columns (columnWidths rows)) row := by
      refine List.count_pos_iff.mp ?_
      rw [count_rowText config hrow]
      exact List.count_pos_iff.mpr (List.mem_flatten_of_mem hcell hfeed)
    obtain ⟨piece, hpiece, hshorter⟩ := Text.exists_shorter_of_mem hmem
    have hprinted : piece ∈ config.tornLines rows :=
      List.mem_flatMap.mpr ⟨_, mem_arrange_of_mem rule (List.mem_map_of_mem hrow), hpiece⟩
    rw [length_toUtf8_rowText hborder hframe hmeasurable hrow, hstraight piece hprinted rule hrule]
      at hshorter
    exact Nat.lt_irrefl _ hshorter
  · intro honeLined
    have hsame : ∀ line ∈ config.tornLines rows,
        (Text.toUtf8 line).length = (Text.toUtf8 rule).length := by
      intro line hline
      rw [tornLines_of_areOneLined honeLined] at hline
      rcases mem_arrange hline with rfl | hline
      · rfl
      · obtain ⟨row, hrow, rfl⟩ := List.mem_map.mp hline
        exact length_toUtf8_rowText hborder hframe hmeasurable hrow
    exact fun line hline other hother => (hsame line hline).trans (hsame other hother).symm

end Config
end Table

/-! ### Fields on one line -/

namespace Csv

theorem Reading.isOver_empty {p : CodePoint → Prop} : IsOver p {} := ⟨nofun, nofun, nofun⟩

theorem Reading.place_endRow_ne_quoted (r : Reading) : r.endRow.place ≠ .quoted :=
  Place.noConfusion

/-- Only a quote opens a field between quotes. -/
theorem Reading.place_step_ne_quoted {r : Reading} (hplace : r.place ≠ .quoted) {c : CodePoint}
    (hc : c ≠ .char '"') : (r.step c).place ≠ .quoted := by
  have hbare : (if c = .char ',' then r.endField else r.add .bare c).place ≠ .quoted := by
    split <;> exact Place.noConfusion
  rw [Reading.step]
  split
  · rw [if_neg hc]; exact hbare
  · rw [if_neg hc]; exact hbare
  · exact hbare
  · next hquoted => exact absurd hquoted hplace
  · rw [if_neg hc]; exact hbare

/-- Only between quotes a line feed belongs to a field. -/
theorem areOneLined_rowsFrom {r : Reading} (hread : r.IsOver (· ≠ .char '\n'))
    (hplace : r.place ≠ .quoted) {t : Text} (hquote : CodePoint.char '"' ∉ t) :
    Table.AreOneLined (rowsFrom r t) := by
  suffices hrows : ∀ row ∈ rowsFrom r t, ∀ field ∈ row, ∀ c ∈ field, c ≠ CodePoint.char '\n' from
    fun row hrow field hfield hfeed => hrows row hrow field hfield _ hfeed rfl
  fun_induction rowsFrom r t with
  | case1 r => exact hread.atEnd
  | case2 r c rest hquoted _ => exact absurd hquoted hplace
  | case3 r rest _ ih =>
    exact ih hread.endRow r.place_endRow_ne_quoted
      fun h => hquote (List.mem_cons_of_mem _ (List.mem_cons_of_mem _ h))
  | case4 r rest _ _ ih =>
    exact ih hread.endRow r.place_endRow_ne_quoted fun h => hquote (List.mem_cons_of_mem _ h)
  | case5 r rest _ _ ih =>
    exact ih hread.endRow r.place_endRow_ne_quoted fun h => hquote (List.mem_cons_of_mem _ h)
  | case6 r c rest _ _ hfeed ih =>
    obtain ⟨hc, hrest⟩ := not_or.mp (mt List.mem_cons.mpr hquote)
    exact ih (hread.step hfeed) (r.place_step_ne_quoted hplace (Ne.symm hc)) hrest

theorem eq_rowsFrom_of_rows? {t : Text} {rows : List (List Text)} (h : rows? t = some rows) :
    rows = rowsFrom {} t := by
  rw [rows?] at h
  split at h
  · cases h
  · exact (Option.some.inj h).symm

end Csv

/-! ### Records in a call -/

namespace Call

open CommandLine (Flags)
open Table (AreOneLined feedCount readInput)
open Table.Config (IsStraight)

variable {call : Call} {settings : Settings} {r : Table.Request} {text : Text}
  {records : List (List Text)}

/-- **A record is printed on one line unless a line feed stands in it.**  A call draws the records
of comma separated text that it reads, whatever is drawn around them.  It ends well and prints a
line for every record and every rule, and one more for every line feed in a field.  So every
record has one line exactly if no field holds a line feed, and with a border and a frame it is
then, and only then, that all lines have the same number of bytes.  Without quotes in the text
no field holds one. -/
theorem run_csv_lines (hruns : call.Runs settings (.table r)) (hformat : r.format = .csv)
    (htext : readInput call.place.files call.place.here call.input r.file = .ok text)
    (hrecords : Csv.rows? text = some records) :
    call.run.ending = .exit 0 ∧
      ∃ printed, Text.splitOn '\n' call.run.output = printed ++ [[]] ∧
        printed.length =
          records.length + r.config.ruleCount records.length + feedCount records ∧
        (r.config.IsLinePerRow records printed ↔ AreOneLined records) ∧
        (r.config.border = true → r.config.frame = true →
          (IsStraight printed ↔ AreOneLined records)) ∧
        (CodePoint.char '"' ∉ text → AreOneLined records) := by
  have hrows : r.format.rows text = .ok records := by
    rw [hformat, Table.Format.rows, hrecords]
  have hdone : ((Command.table r).run .standard call (call.programValue settings)
      settings).outcome = .ok () := by
    rw [Command.run, Table.outcome_run, htext]
    exact congrArg (Except.map fun _ => ()) hrows
  have hmeasurable : Table.isMeasurable records = true :=
    Table.isMeasurable_of_rows hrows (Table.isEncodable_of_readInput htext)
  have houtput : call.run.output = r.config.render records := by
    rw [hruns.output_eq hdone]
    exact Table.output_run htext hrows
  refine ⟨by rw [hruns.ending_eq, hdone], r.config.tornLines records, ?_,
    r.config.length_tornLines records, Table.Config.isLinePerRow_tornLines_iff, ?_, ?_⟩
  · rw [houtput, Table.Config.splitOn_render]
  · exact fun hborder hframe => Table.Config.isStraight_tornLines_iff hborder hframe hmeasurable
  · intro hquote
    rw [Csv.eq_rowsFrom_of_rows? hrecords]
    exact Csv.areOneLined_rowsFrom Csv.Reading.isOver_empty (by decide) hquote

/-- A call for a box around the records in a file. -/
def boxCall (bytes : List UInt8) : Call where
  line := ["table", "csv", "t.csv", "-b", "-f"]
  path := "docs"
  place := { files := { nodes := [(["t.csv"], .file bytes)] } }

/-- What the call for a box asks for. -/
def boxRequest : Table.Request :=
  { format := .csv, file := some "t.csv", config := { border := true, frame := true } }

theorem boxCall_runs (bytes : List UInt8) :
    (boxCall bytes).Runs (.ofLayers [("cli", []), ("project", []), ("global", [])])
      (.table boxRequest) := by
  have hread : Flags.read (Path.baseName "docs") ["table", "csv", "t.csv", "-b", "-f"] =
      .ok ({}, ["table", "csv", "t.csv", "-b", "-f"]) := by decide +kernel
  have hcommand : Command.read ["table", "csv", "t.csv", "-b", "-f"] =
      .ok (.table boxRequest) := by decide +kernel
  exact ⟨_, _, _, _, ⟨hread, rfl, rfl⟩, rfl, rfl, hcommand⟩

/-- One record, whose only field holds a line feed. -/
def feedRecords : List (List Text) := [["a\nb"]]

/-- The text of the record. -/
def feedText : Text := "\"a\nb\"\n"

theorem run_csv_lines_feed :
    (boxCall (Text.toUtf8 feedText)).Runs (.ofLayers [("cli", []), ("project", []), ("global", [])])
        (.table boxRequest) ∧
      boxRequest.format = .csv ∧
      readInput (boxCall (Text.toUtf8 feedText)).place.files
        (boxCall (Text.toUtf8 feedText)).place.here (boxCall (Text.toUtf8 feedText)).input
        boxRequest.file = .ok feedText ∧
      Csv.rows? feedText = some feedRecords ∧
      (boxCall (Text.toUtf8 feedText)).run.ending = .exit 0 ∧
      (boxCall (Text.toUtf8 feedText)).run.output = ("+-----+\n| a\nb |\n+-----+\n" : Text) ∧
      ∃ printed,
        Text.splitOn '\n' (boxCall (Text.toUtf8 feedText)).run.output = printed ++ [[]] ∧
        printed.length = 1 + 2 + 1 ∧
        ¬ boxRequest.config.IsLinePerRow feedRecords printed ∧ ¬ IsStraight printed := by
  have htext : readInput (boxCall (Text.toUtf8 feedText)).place.files
      (boxCall (Text.toUtf8 feedText)).place.here (boxCall (Text.toUtf8 feedText)).input
      boxRequest.file = .ok feedText := by decide +kernel
  have hrecords : Csv.rows? feedText = some feedRecords := by decide +kernel
  have houtput : (boxCall (Text.toUtf8 feedText)).run.output =
      ("+-----+\n| a\nb |\n+-----+\n" : Text) := by decide +kernel
  have htorn : ¬ AreOneLined feedRecords := by decide
  obtain ⟨hending, printed, hprinted, hlength, hperRow, hstraight, -⟩ :=
    run_csv_lines (boxCall_runs _) rfl htext hrecords
  exact ⟨boxCall_runs _, rfl, htext, hrecords, hending, houtput, printed, hprinted, hlength,
    mt hperRow.mp htorn, mt (hstraight rfl rfl).mp htorn⟩

end Call
end HelpPages
