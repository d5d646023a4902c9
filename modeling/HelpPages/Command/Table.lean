import HelpPages.Catalog.Run
import HelpPages.Csv
import HelpPages.Output

/-! # The table command

It reads rows from a file or from the standard input and writes them as a table.
-/
namespace HelpPages

/-- The standard input: bytes, or a user who interrupts the program. -/
inductive Input where
  | bytes (bytes : List UInt8)
  | interrupt
deriving DecidableEq, Repr

namespace Table

/-- The formats of the input. -/
inductive Format where
  | csv | tsv
deriving DecidableEq, Repr

/-- The name of a format. -/
def Format.name : Format → Text
  | csv => "csv"
  | tsv => "tsv"

/-- What the table command is asked for. -/
structure Request where
  format : Format
  /-- The path of the file; without one the standard input is read. -/
  file : Option Text := none
  config : Config := {}
deriving DecidableEq, Repr

/-- The text that bytes encode. -/
def decode (bytes : List UInt8) : Except Failure Text :=
  match Text.ofUtf8? bytes with
  | some text => .ok text
  | none => .error .undecodable

/-- The text of the input.  Line ends of the standard input are unified, those of
a file stay as they are. -/
def readInput (files : FileTree) (here : Location) (input : Input) (file : Option Text) :
    Except Failure Text :=
  match file, input with
  | some path, _ => do decode (← (files.read here path).mapError .file)
  | none, .bytes bytes => do return Text.unifyBreaks (← decode bytes)
  | none, .interrupt => .error .interrupted

/-- The rows of a text in a format. -/
def Format.rows (format : Format) (text : Text) : Except Failure (List (List Text)) :=
  match format with
  | csv =>
    match Csv.rows? text with
    | some rows => .ok rows
    | none => .error .fieldTooLong
  | tsv => .ok ((Text.inputLines text).map (Text.splitOn '\t'))

/-- The template of the remark on the rows that were read. -/
def readTemplate : Text := "\x7bn\x7d rows read"

/-- Rows written as a table, with the remarks on them. -/
def writeRows (sink : Sink) (config : Config) (rows : List (List Text)) : Run Failure Unit := do
  Run.emit 1 "render" readTemplate [("n", .text (Integer.ofNat rows.length))]
  let text ← config.draw rows
  Run.print sink text
  if !config.header then Run.hint Hint.header.id "verbose" []

/-- The table command. -/
def run (files : FileTree) (here : Location) (input : Input) (sink : Sink) (r : Request) :
    Run Failure Unit := do
  let text ← Run.ofExcept (readInput files here input r.file)
  let rows ← Run.ofExcept (r.format.rows text)
  writeRows sink r.config rows

/-- What is said about the table command. -/
def doc : Text :=
  Text.joinWith "\n" [
    "Renders comma or tab separated rows as a text table.",
    "",
    "Rows are read from a file, or from standard input when no file is",
    "given. Rows may have different numbers of cells.",
    "",
    "@usage $0 table <format> [options] [file]",
    "@arg format  Input format, one of the sub commands below",
    "@arg file    Input file (default: standard input)",
    "@opt --border -b  Draw an outer border",
    "@opt --frame -f   Draw rules between the cells",
    "@opt --header     Draw a rule under the first row",
    "@opt --skip-empty Leave out columns without any text",
    "",
    "@example `$0 table csv data.csv`             Align a CSV file in columns",
    "@example `$0 table tsv -b -f --header < t.tsv` Draw a TSV file as a boxed table"]

/-- What is said about tables from comma separated rows. -/
def csvDoc : Text :=
  Text.joinWith "\n" [
    "Renders comma separated rows.",
    "",
    "Quoted cells may contain commas and newlines.",
    "",
    "@usage $0 table csv [options] [file]",
    "@example `$0 table csv -b -f people.csv`  Draw people.csv in a box"]

/-- What is said about tables from tab separated rows. -/
def tsvDoc : Text :=
  Text.joinWith "\n" [
    "Renders tab separated rows.",
    "",
    "@usage $0 table tsv [options] [file]"]

/-- The table command in a catalog. -/
def target : Target :=
  .module (some doc)
    [("execute_csv", { kind := .function, doc := some csvDoc }),
      ("execute_tsv", { kind := .function, doc := some tsvDoc })]

end Table
end HelpPages
