import HelpPages.Page.Basic
import HelpPages.Style.Basic
import HelpPages.Table.Layout
import HelpPages.Text.Blank

/-! # The text of a page

A page is written section by section; a section without data is left out.
Tables are laid out first and coloured afterwards, so colours never take part in
the widths.
-/
namespace HelpPages

/-- How pages are written: with which pen, and how far the sections stand in. -/
structure Renderer where
  pen : Pen := Pen.plain
  indent : Nat := 2
deriving DecidableEq, Repr

namespace Renderer

/-- The blanks before a line of a section. -/
def margin (r : Renderer) : Text := Text.spaces r.indent

/-- A cell with its text emphasised and the blanks behind it as they are. -/
def emphasizeCell (pen : Pen) (cell : Text) : Text :=
  let text := Text.dropEndWhile (·.is ' ') cell
  pen.emphasis text ++ cell.drop text.length

/-- The line with the first `count` of its cells between tabs emphasised. -/
def emphasizeCells (pen : Pen) (count : Int) (line : Text) : Text :=
  if !pen.colored || count ≤ 0 then line
  else
    let cells := Text.splitOn '\t' line
    Text.joinWith "\t"
      ((cells.take count.toNat).map (emphasizeCell pen) ++ cells.drop count.toNat)

/-- A section: a heading, the lines of a table and an empty line. -/
def tableSection (r : Renderer) (title : Text) (rows : List (List Text)) (config : Table.Config)
    (styled : Int) : Text :=
  let lines := (Text.breakLines (config.render rows)).map fun line =>
    r.margin ++ emphasizeCells r.pen styled line
  r.pen.heading title ++ "\n" ++ Text.joinWith "\n" lines ++ "\n\n"

/-- The layout of tables with names. -/
def nameTable : Table.Config := {}

/-- The layout of the table of options. -/
def optionTable : Table.Config := { skipEmpty := true }

/-- A section that lists names with their descriptions. -/
def nameList (r : Renderer) (title : Text) (entries : Entries Text) : Text :=
  r.tableSection title (entries.map fun (name, description) => [name, description]) nameTable 1

/-- The section that shows how a command is called. -/
def usage (r : Renderer) (page : Page) : Text :=
  let usage := page.usage.getD []
  if usage = [] then [] else r.pen.heading "Usage:" ++ "\n" ++ r.margin ++ usage ++ "\n\n"

/-- The section of the arguments. -/
def args (r : Renderer) (page : Page) : Text :=
  if page.args = [] then [] else r.nameList "Arguments:" page.args

/-- The row of an option. -/
def optionRow (o : CommandOption) : List Text := [o.longLabel, o.shortLabel, o.description]

/-- The section of the options. -/
def options (r : Renderer) (page : Page) : Text :=
  if page.options = [] then []
  else
    let labels (label : CommandOption → Text) : Int :=
      if page.options.any (label · ≠ []) then 1 else 0
    r.tableSection "Options:" (page.options.map optionRow) optionTable
      (labels CommandOption.longLabel + labels CommandOption.shortLabel)

/-- The section of the sub-commands. -/
def subCommands (r : Renderer) (page : Page) : Text :=
  if page.subCommands = [] then [] else r.nameList "Sub commands:" page.subCommands

/-- The line that says what an example does, if anything is said. -/
def caption (r : Renderer) (description : Text) : Text :=
  if description = [] then [] else r.margin ++ description ++ ":\n"

/-- The lines of an example. -/
def exampleLines (r : Renderer) (e : Example) : Text :=
  r.caption e.description ++ r.margin ++ r.margin ++ r.pen.emphasis e.code ++ "\n\n"

/-- The section of the examples. -/
def examples (r : Renderer) (page : Page) : Text :=
  if page.examples = [] then []
  else r.pen.heading "Examples:" ++ "\n" ++ page.examples.flatMap r.exampleLines

/-- A paragraph and an empty line, or nothing for an empty paragraph. -/
def paragraph (t : Text) : Text := if t = [] then [] else t ++ "\n\n"

/-- The text of a page, without blanks and empty lines around it. -/
def render (r : Renderer) (page : Page) : Text :=
  Text.trim (fun c => c = '\n' || c = ' ')
    (paragraph page.description ++ r.usage page ++ r.args page ++ r.options page
      ++ r.subCommands page ++ paragraph (page.longDescription.getD []) ++ r.examples page)

/-- The list of commands with their short descriptions. -/
def commandList (r : Renderer) (commands : Entries Text) : Text :=
  r.nameList "Available commands:" commands

/-- A table to be laid out: its configuration and its rows. -/
abbrev Layout := Table.Config × List (List Text)

/-- The table of a list of names. -/
def nameLayout (entries : Entries Text) : Layout :=
  (nameTable, entries.map fun (name, description) => [name, description])

/-- The tables in the section of the arguments. -/
def argLayouts (page : Page) : List Layout := if page.args = [] then [] else [nameLayout page.args]

/-- The tables in the section of the options. -/
def optionLayouts (page : Page) : List Layout :=
  if page.options = [] then [] else [(optionTable, page.options.map optionRow)]

/-- The tables in the section of the sub-commands. -/
def subCommandLayouts (page : Page) : List Layout :=
  if page.subCommands = [] then [] else [nameLayout page.subCommands]

/-- The tables of a page in their order. -/
def layouts (page : Page) : List Layout :=
  argLayouts page ++ optionLayouts page ++ subCommandLayouts page

end Renderer
end HelpPages
