import HelpPages.Catalog.Basic
import HelpPages.Catalog.Docstring
import HelpPages.Catalog.Run
import HelpPages.Catalog.Target
import HelpPages.Command.Help
import HelpPages.Command.Table
import HelpPages.CommandLine.Command
import HelpPages.CommandLine.Flags
import HelpPages.CommandLine.Grammar
import HelpPages.CommandLine.Reading
import HelpPages.CommandLine.Role
import HelpPages.CommandLine.Screen
import HelpPages.Comment.Lines
import HelpPages.Comment.Tag
import HelpPages.Csv
import HelpPages.Failure
import HelpPages.Files
import HelpPages.Json
import HelpPages.Log.Basic
import HelpPages.Log.Channel
import HelpPages.Log.Desk
import HelpPages.Log.Hint
import HelpPages.Log.Named
import HelpPages.Log.Run
import HelpPages.Main
import HelpPages.Number.Binary64
import HelpPages.Number.Integer
import HelpPages.Output
import HelpPages.Page.Basic
import HelpPages.Page.OfComment
import HelpPages.Page.Reader
import HelpPages.Page.Render
import HelpPages.Page.Run
import HelpPages.Page.Substitution
import HelpPages.Path
import HelpPages.Program
import HelpPages.Proofs.Catalog.Attributes
import HelpPages.Proofs.Catalog.Docstring
import HelpPages.Proofs.Catalog.Inheritance
import HelpPages.Proofs.Catalog.Pages
import HelpPages.Proofs.Catalog.Registration
import HelpPages.Proofs.Catalog.SubCommands
import HelpPages.Proofs.Catalog.Traces
import HelpPages.Proofs.CommandLine.Diagnostics
import HelpPages.Proofs.CommandLine.FlagPlaces
import HelpPages.Proofs.CommandLine.Screens
import HelpPages.Proofs.Comment.Blanks
import HelpPages.Proofs.Comment.Block
import HelpPages.Proofs.Comment.CleanLines
import HelpPages.Proofs.Comment.Kind
import HelpPages.Proofs.Comment.OptionLine
import HelpPages.Proofs.Comment.Pattern
import HelpPages.Proofs.Comment.TagLine
import HelpPages.Proofs.Comment.Uses
import HelpPages.Proofs.Files.Locations
import HelpPages.Proofs.Json.Writable
import HelpPages.Proofs.Log.Inert
import HelpPages.Proofs.Log.Opening
import HelpPages.Proofs.Log.Remarks
import HelpPages.Proofs.Log.ShownHints
import HelpPages.Proofs.Log.Tracing
import HelpPages.Proofs.Log.Verbosity
import HelpPages.Proofs.Number.Numeral
import HelpPages.Proofs.Outcome
import HelpPages.Proofs.Page.Accounts
import HelpPages.Proofs.Page.Characters
import HelpPages.Proofs.Page.Colour
import HelpPages.Proofs.Page.Decoration
import HelpPages.Proofs.Page.Description
import HelpPages.Proofs.Page.EmphasizedCells
import HelpPages.Proofs.Page.Encodable
import HelpPages.Proofs.Page.Interleaving
import HelpPages.Proofs.Page.Listings
import HelpPages.Proofs.Page.OptionLabels
import HelpPages.Proofs.Page.Paragraphs
import HelpPages.Proofs.Page.Remarks
import HelpPages.Proofs.Page.RoundTrip
import HelpPages.Proofs.Page.Substituted
import HelpPages.Proofs.Program.Diagnostics
import HelpPages.Proofs.Program.Endings
import HelpPages.Proofs.Program.Failures
import HelpPages.Proofs.Program.HelpCommand
import HelpPages.Proofs.Program.Inert
import HelpPages.Proofs.Program.Records
import HelpPages.Proofs.Program.Stages
import HelpPages.Proofs.Program.Tables
import HelpPages.Proofs.Settings.Files
import HelpPages.Proofs.Settings.Layers
import HelpPages.Proofs.Settings.NearestFile
import HelpPages.Proofs.Settings.Precedence
import HelpPages.Proofs.Style.Codes
import HelpPages.Proofs.Style.Ending
import HelpPages.Proofs.Table.Alignment
import HelpPages.Proofs.Table.Box
import HelpPages.Proofs.Table.Columns
import HelpPages.Proofs.Table.Measured
import HelpPages.Proofs.Table.MissingCells
import HelpPages.Proofs.Table.Options
import HelpPages.Proofs.Table.Plain
import HelpPages.Proofs.Table.RowOrder
import HelpPages.Proofs.Table.TabStops
import HelpPages.Proofs.Table.Widths
import HelpPages.Proofs.Template.Fill
import HelpPages.Proofs.Text.Encodable
import HelpPages.Proofs.Text.Lines
import HelpPages.Proofs.Text.Pattern
import HelpPages.Proofs.Text.Pieces
import HelpPages.Proofs.Text.Replace
import HelpPages.Proofs.Text.Trim
import HelpPages.Proofs.Text.Utf8
import HelpPages.Proofs.Text.Words
import HelpPages.Proofs.Value.Entries
import HelpPages.Settings
import HelpPages.Style.Basic
import HelpPages.Table.Cell
import HelpPages.Table.Chosen
import HelpPages.Table.Config
import HelpPages.Table.Layout
import HelpPages.Table.Run
import HelpPages.Table.Widget
import HelpPages.Template.Fill
import HelpPages.Template.Layout
import HelpPages.Template.Method
import HelpPages.Template.Property
import HelpPages.Template.Spec
import HelpPages.Text.Basic
import HelpPages.Text.Blank
import HelpPages.Text.CodePoint
import HelpPages.Text.Digit
import HelpPages.Text.Printable
import HelpPages.Text.Quoted
import HelpPages.Text.Utf8
import HelpPages.Text.Word
import HelpPages.Value
import HelpPages.Value.Kind
import HelpPages.Version
