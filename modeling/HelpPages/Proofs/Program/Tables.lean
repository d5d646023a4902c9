import HelpPages.Proofs.Program.Stages
import HelpPages.Proofs.Table.Plain
import HelpPages.Proofs.Text.Utf8

/-! # Tables from files

The table command reads bytes that encode a text and draws the rows of the text.  All cells
come from the text, so they can be measured, and once the rows are read nothing goes wrong any
more (`Table.outcome_run`).  What it writes can be read again: a plain table of tab separated
rows that is stored in a file and drawn from there is written the same way
(`Call.run_drawsTabs_again`).
-/
namespace HelpPages

/-! ### Fields of comma separated rows -/

namespace Csv

variable {p : CodePoint → Prop} {r : Reading}

/-- All that has been read are code points of a kind. -/
structure Reading.IsOver (p : CodePoint → Prop) (r : Reading) : Prop where
  field : ∀ c ∈ r.field, p c
  fields : ∀ t ∈ r.fields, ∀ c ∈ t, p c
  rows : ∀ row ∈ r.rows, ∀ t ∈ row, ∀ c ∈ t, p c

namespace Reading.IsOver

theorem add (h : r.IsOver p) (place : Place) {c : CodePoint} (hc : p c) :
    (r.add place c).IsOver p where
  field := List.forall_mem_cons.mpr ⟨hc, h.field⟩
  fields := h.fields
  rows := h.rows

theorem move (h : r.IsOver p) (place : Place) : IsOver p { r with place } :=
  ⟨h.field, h.fields, h.rows⟩

theorem endField (h : r.IsOver p) : r.endField.IsOver p where
  field := nofun
  fields := List.forall_mem_cons.mpr ⟨fun c hc => h.field c (List.mem_reverse.mp hc), h.fields⟩
  rows := h.rows

theorem endRow (h : r.IsOver p) : r.endRow.IsOver p where
  field := nofun
  fields := nofun
  rows := by
    refine List.forall_mem_cons.mpr ⟨fun t ht => ?_, h.rows⟩
    split at ht
    · cases ht
    · exact h.endField.fields t (List.mem_reverse.mp ht)

/-- A character that ends no line is added to the open field, or ends it, or is a quote. -/
theorem step (h : r.IsOver p) {c : CodePoint} (hc : p c) : (r.step c).IsOver p := by
  have hbare : IsOver p (if c = ',' then r.endField else r.add .bare c) := by
    split
    · exact h.endField
    · exact h.add .bare hc
  rw [Reading.step]
  split
  · split
    · exact h.move .quoted
    · exact hbare
  · split
    · exact h.move .quoted
    · exact hbare
  · exact hbare
  · split
    · exact h.move .closing
    · exact h.add .quoted hc
  · split
    · exact h.add .quoted hc
    · exact hbare

theorem atEnd (h : r.IsOver p) : ∀ row ∈ r.atEnd, ∀ t ∈ row, ∀ c ∈ t, p c := by
  intro row hrow
  rw [Reading.atEnd, List.mem_reverse] at hrow
  split at hrow
  · exact h.rows row hrow
  · exact h.endRow.rows row hrow

end Reading.IsOver

/-- The fields of a text have code points of the text only. -/
theorem isOver_rowsFrom (h : r.IsOver p) {t : Text} (ht : ∀ c ∈ t, p c) :
    ∀ row ∈ rowsFrom r t, ∀ field ∈ row, ∀ c ∈ field, p c := by
  fun_induction rowsFrom r t with
  | case1 r => exact h.atEnd
  | case2 r c rest _ ih =>
    obtain ⟨hc, hrest⟩ := List.forall_mem_cons.mp ht
    exact ih (h.step hc) hrest
  | case3 r rest _ ih =>
    obtain ⟨-, hrest⟩ := List.forall_mem_cons.mp (List.forall_mem_cons.mp ht).2
    exact ih h.endRow hrest
  | case4 r rest _ _ ih => exact ih h.endRow (List.forall_mem_cons.mp ht).2
  | case5 r rest _ _ ih => exact ih h.endRow (List.forall_mem_cons.mp ht).2
  | case6 r c rest _ _ _ ih =>
    obtain ⟨hc, hrest⟩ := List.forall_mem_cons.mp ht
    exact ih (h.step hc) hrest

end Csv

/-! ### The table command -/

namespace Table

/-- The rows of a text that can be encoded can be measured. -/
theorem isMeasurable_of_rows {format : Format} {text : Text} {rows : List (List Text)}
    (h : format.rows text = .ok rows) (encodable : text.isEncodable = true) :
    isMeasurable rows = true := by
  have hchars : ∀ c ∈ text, c.isChar = true := List.all_eq_true.mp encodable
  refine isMeasurable_iff.mpr fun row hrow cell hcell => List.all_eq_true.mpr fun c hc => ?_
  cases format with
  | csv =>
    rw [Format.rows, Csv.rows?] at h
    split at h
    · next found hfound =>
      split at hfound
      · cases hfound
      · cases hfound
        cases h
        exact Csv.isOver_rowsFrom ⟨nofun, nofun, nofun⟩ hchars row hrow cell hcell c hc
    · cases h
  | tsv =>
    cases h
    exact hchars c ((Config.of_mem_tabRows hrow hcell).1 hc)

theorem decode_eq_ok_iff {bytes : List UInt8} {text : Text} :
    decode bytes = .ok text ↔ Text.ofUtf8? bytes = some text := by
  rw [decode]
  cases Text.ofUtf8? bytes with
  | some t => exact ⟨fun h => congrArg some (Except.ok.inj h), fun h => by cases h; rfl⟩
  | none => exact ⟨nofun, nofun⟩

theorem mem_unifyBreaks {t : Text} {c : CodePoint} (h : c ∈ Text.unifyBreaks t) :
    c = .char '\n' ∨ c ∈ t := by
  fun_induction Text.unifyBreaks t with
  | case1 => cases h
  | case2 rest ih =>
    rcases List.mem_cons.mp h with rfl | h
    · exact .inl rfl
    · exact (ih h).imp_right fun h => List.mem_cons_of_mem _ (List.mem_cons_of_mem _ h)
  | case3 rest _ ih =>
    rcases List.mem_cons.mp h with rfl | h
    · exact .inl rfl
    · exact (ih h).imp_right (List.mem_cons_of_mem _)
  | case4 d rest _ _ ih =>
    rcases List.mem_cons.mp h with rfl | h
    · exact .inr (List.mem_cons_self ..)
    · exact (ih h).imp_right (List.mem_cons_of_mem _)

/-- What is read as an input can be encoded. -/
theorem isEncodable_of_readInput {files : FileTree} {here : Location} {input : Input}
    {file : Option Text} {text : Text} (h : readInput files here input file = .ok text) :
    text.isEncodable = true := by
  cases file with
  | some path =>
    obtain ⟨bytes, -, h⟩ := bind_eq_ok_iff.mp h
    exact Text.isEncodable_of_ofUtf8? (decode_eq_ok_iff.mp h)
  | none =>
    cases input with
    | bytes bytes =>
      obtain ⟨decoded, hdecoded, h⟩ := bind_eq_ok_iff.mp h
      cases h
      have hchars := Text.isEncodable_of_ofUtf8? (decode_eq_ok_iff.mp hdecoded)
      refine List.all_eq_true.mpr fun c hc => ?_
      rcases mem_unifyBreaks hc with rfl | hc
      · rfl
      · exact List.all_eq_true.mp hchars c hc
    | interrupt => cases h

/-- What is written of rows that can be measured is their table. -/
theorem writeRows_of_isMeasurable (sink : Sink) (config : Config) {rows : List (List Text)}
    (h : isMeasurable rows = true) :
    (writeRows sink config rows).outcome = .ok () ∧
      (writeRows sink config rows).output = config.render rows := by
  obtain ⟨texts, hremarks⟩ := config.exists_remarks_draw rows
  have hdraw : (config.draw rows).outcome = .ok (config.render rows) := by
    rw [hremarks.outcome_eq, if_pos h]
  have htakes := sink.takes_of_isEncodable (config.isEncodable_render h)
  have hprint : (Run.print sink (config.render rows)).outcome = .ok () := by
    rw [Run.outcome_print, if_pos htakes]
  have hsaid : (Run.emit 1 "render" readTemplate [("n", .text (Integer.ofNat rows.length))] :
      Run Failure Unit).outcome = .ok () := rfl
  -- the hint behind the table is no output
  have htip : ∀ tip : Run Failure Unit, tip = (if !config.header then
      Run.hint Hint.header.id "verbose" [] else pure ()) →
        tip.outcome = .ok () ∧ tip.output = [] := by
    rintro tip rfl
    split <;> exact ⟨rfl, rfl⟩
  constructor
  · rw [writeRows, Run.outcome_bind, hsaid]
    show (config.draw rows >>= _ : Run Failure Unit).outcome = _
    rw [Run.outcome_bind, hdraw]
    show (Run.print sink (config.render rows) >>= _ : Run Failure Unit).outcome = _
    rw [Run.outcome_bind, hprint]
    exact (htip _ rfl).1
  · rw [writeRows, Run.output_bind_of_ok hsaid, Run.output_bind_of_ok hdraw, hremarks.output_eq,
      Run.output_bind_of_ok hprint, Run.output_print_of_takes htakes, (htip _ rfl).2]
    exact List.append_nil _

/-- **Once its rows are read, a table is drawn.** -/
theorem outcome_run (files : FileTree) (here : Location) (input : Input) (sink : Sink)
    (r : Request) :
    (run files here input sink r).outcome =
      (readInput files here input r.file >>= r.format.rows).map fun _ => () := by
  rw [run, Run.outcome_bind]
  cases htext : readInput files here input r.file with
  | error e => rfl
  | ok text =>
    show (Run.ofExcept (r.format.rows text) >>= _ : Run Failure Unit).outcome =
      (r.format.rows text).map _
    rw [Run.outcome_bind]
    cases hrows : r.format.rows text with
    | error e => rfl
    | ok rows =>
      have hmeasurable := isMeasurable_of_rows hrows (isEncodable_of_readInput htext)
      exact (writeRows_of_isMeasurable sink r.config hmeasurable).1

/-- The output of the table command is the table of the rows that it reads. -/
theorem output_run {files : FileTree} {here : Location} {input : Input} {sink : Sink}
    {r : Request} {text : Text} {rows : List (List Text)}
    (htext : readInput files here input r.file = .ok text)
    (hrows : r.format.rows text = .ok rows) :
    (run files here input sink r).output = r.config.render rows := by
  have hmeasurable := isMeasurable_of_rows hrows (isEncodable_of_readInput htext)
  have hread : (Run.ofExcept (readInput files here input r.file)).outcome = .ok text := htext
  have hcut : (Run.ofExcept (r.format.rows text)).outcome = .ok rows := hrows
  rw [run, Run.output_bind_of_ok hread, Run.output_bind_of_ok hcut,
    (writeRows_of_isMeasurable sink r.config hmeasurable).2]
  rfl

end Table

/-! ### Tables that are read back -/

namespace Call

open CommandLine (Flags)
open Table (Config)
open Table.Config (plain tabRows)

/-- The call draws the plain table of tab separated rows in a file with some bytes, and its
settings can be read. -/
structure DrawsTabs (call : Call) (skipEmpty : Bool) (bytes : List UInt8) : Prop where
  asks : ∃ flags line log path, call.Begins flags line log ∧
    Command.read line =
      .ok (.table { format := .tsv, file := some path, config := plain skipEmpty }) ∧
    (∃ found, Settings.layers call.place flags.given [] = .ok found) ∧
    call.place.files.read call.place.here path = .ok bytes

variable {call again : Call} {skipEmpty : Bool} {bytes : List UInt8} {text : Text}

/-- The plain table of the file is what the call writes, and all of it. -/
theorem DrawsTabs.run (h : call.DrawsTabs skipEmpty bytes) (utf8 : Text.ofUtf8? bytes = some text) :
    call.run.ending = .exit 0 ∧ call.run.output = (plain skipEmpty).render (tabRows text) := by
  obtain ⟨flags, line, log, path, hbegins, hcommand, ⟨found, hfound⟩, hfile⟩ := h.asks
  have hread : Table.readInput call.place.files call.place.here call.input (some path) =
      .ok text := by
    show ((call.place.files.read call.place.here path).mapError Failure.file >>= Table.decode) = _
    rw [hfile]
    exact Table.decode_eq_ok_iff.mpr utf8
  have hruns : call.Runs (.ofLayers found.1)
      (.table { format := .tsv, file := some path, config := plain skipEmpty }) :=
    ⟨flags, line, log, found, hbegins, hfound, rfl, hcommand⟩
  have hdone : ∀ settings, ((Command.table
      { format := .tsv, file := some path, config := plain skipEmpty }).run .standard call
        (call.programValue settings) settings).outcome = .ok () := by
    intro settings
    rw [Command.run, Table.outcome_run]
    show Except.map _ (Table.readInput _ _ _ (some path) >>= _) = _
    rw [hread]
    rfl
  refine ⟨by rw [hruns.ending_eq, hdone], ?_⟩
  rw [hruns.output_eq (hdone _)]
  exact Table.output_run hread rfl

/-- **A plain table is read back as it was written.**  A call draws the plain table of tab
separated rows in a file that holds some text in UTF-8.  Another call that draws the plain
table of a file with the output of the first one writes the same output. -/
theorem run_drawsTabs_again (utf8 : Text.ofUtf8? bytes = some text)
    (first : call.DrawsTabs skipEmpty bytes)
    (second : again.DrawsTabs skipEmpty (Text.toUtf8 call.run.output)) :
    call.run.ending = .exit 0 ∧ again.run.ending = .exit 0 ∧
      call.run.output = (plain skipEmpty).render (tabRows text) ∧
      again.run.output = call.run.output := by
  obtain ⟨hending, houtput⟩ := first.run utf8
  have hencodable : call.run.output.isEncodable = true := by
    rw [houtput]
    have hrows : Table.Format.tsv.rows text = .ok (tabRows text) := rfl
    exact (plain skipEmpty).isEncodable_render
      (Table.isMeasurable_of_rows hrows (Text.isEncodable_of_ofUtf8? utf8))
  obtain ⟨hagain, hsame⟩ := second.run (Text.ofUtf8?_toUtf8 hencodable)
  refine ⟨hending, hagain, houtput, ?_⟩
  rw [hsame, houtput, Config.render_tabRows]

/-- A call for the plain table of a file without its empty columns. -/
def tabCall (bytes : List UInt8) : Call where
  line := ["table", "tsv", "t.tsv", "--skip-empty"]
  path := "docs"
  place := { files := { nodes := [(["t.tsv"], .file bytes)] } }

theorem tabCall_drawsTabs (bytes : List UInt8) : (tabCall bytes).DrawsTabs true bytes where
  asks := by
    have hread : Flags.read (Path.baseName "docs") ["table", "tsv", "t.tsv", "--skip-empty"] =
        .ok ({}, ["table", "tsv", "t.tsv", "--skip-empty"]) := by decide +kernel
    have hcommand : Command.read ["table", "tsv", "t.tsv", "--skip-empty"] =
        .ok (.table { format := .tsv, file := some "t.tsv", config := plain true }) := by
      decide +kernel
    have hsettings : Settings.layers (tabCall bytes).place {} [] =
        .ok ([("cli", []), ("project", []), ("global", [])], none) := rfl
    have hfile : (tabCall bytes).place.files.read (tabCall bytes).place.here "t.tsv" =
        .ok bytes := rfl
    exact ⟨_, _, _, _, ⟨hread, rfl, rfl⟩, hcommand, ⟨_, hsettings⟩, hfile⟩

/-- Rows of three lengths with three kinds of line ends, an empty column and no end of the last
line. -/
def raggedText : Text := "Name\t\tGröße\r\nBär\rx\n\t\t\trest"

theorem run_drawsTabs_again_ragged :
    Text.ofUtf8? (Text.toUtf8 raggedText) = some raggedText ∧
      (tabCall (Text.toUtf8 raggedText)).run.ending = .exit 0 ∧
      (tabCall (Text.toUtf8 (tabCall (Text.toUtf8 raggedText)).run.output)).run.ending = .exit 0 ∧
      (tabCall (Text.toUtf8 raggedText)).run.output = (plain true).render (tabRows raggedText) ∧
      (tabCall (Text.toUtf8 (tabCall (Text.toUtf8 raggedText)).run.output)).run.output =
        (tabCall (Text.toUtf8 raggedText)).run.output :=
  ⟨Text.ofUtf8?_toUtf8 (by decide), run_drawsTabs_again (Text.ofUtf8?_toUtf8 (by decide))
    (tabCall_drawsTabs _) (tabCall_drawsTabs _)⟩

end Call
end HelpPages
