import HelpPages.Page.Reader

/-! # Loading pages from the catalog

The page of a command is read from what is said about it, and lists its
sub-commands with their short descriptions.  Every look-up of what is said about
a command is traced.
-/
namespace HelpPages
namespace Catalog

/-- The name of the look-up in the trace. -/
def lookUpName : Text := "dochelp.lib.help_lib.catalog.CommandCatalog.resolve_doc_source"

/-- The catalog in the trace. -/
def traceName : Text := "<dochelp.lib.help_lib.catalog.CommandCatalog ob..."

/-- A failure of a look-up in the trace: its kind and its wording. -/
def describe : Failure → Option (Text × Except Failure Text)
  | .catalog (.duplicate name) => some ("ValueError", .ok (Error.message (.duplicate name)))
  | .catalog (.raised kind message) => some (kind, .ok message)
  | .catalog e => some ("NotFound", .ok e.message)
  | _ => none

/-- What is said about a command, or about one of its sub-commands; `given` are
the values that the trace shows for the look-up. -/
def lookUp (c : Catalog) (name : Text) (sub : Option Text) (given : List Value) :
    Run Failure Text :=
  Run.traced
    { function := lookUpName
      arguments := { literal := .ok traceName } ::
        given.map fun v => { literal := v.literal?.mapError .number } }
    (fun doc => .ok doc.quoted) describe
    (Run.ofExcept ((c.resolve name (sub.getD [])).mapError .catalog))

/-- The values that the trace shows for a command and a sub-command. -/
def bothGiven (name : Text) (sub : Option Text) : List Value :=
  [.text name, (sub.map Value.text).getD .null]

/-- A page with sub-commands added to it, each with the short description of its
own page. -/
def addSubCommands (reader : Reader) (page : Page) : Entries Text → Run Failure Page
  | [] => return page
  | (sub, source) :: sources => do
    let subPage ← reader.read source
    addSubCommands reader (page.addSubCommand sub subPage.shortDescription) sources

/-- The page of a command with its sub-commands, or of one of its
sub-commands. -/
def loadPage (c : Catalog) (reader : Reader) (name : Text) (sub : Option Text) :
    Run Failure Page := do
  let page ← reader.read (← c.lookUp name sub (bothGiven name sub))
  if sub.getD [] = [] then
    let sources ← Run.ofExcept ((c.sources name).mapError .catalog)
    addSubCommands reader page sources
  else return page

/-- The short descriptions of some commands. -/
def describeAll (c : Catalog) (reader : Reader) : List Text → Run Failure (Entries Text)
  | [] => return []
  | name :: names => do
    let page ← reader.read (← c.lookUp name none [.text name])
    return (name, page.shortDescription) :: (← c.describeAll reader names)

/-- The short description of every command. -/
def shortDescriptions (c : Catalog) (reader : Reader) : Run Failure (Entries Text) :=
  c.describeAll reader c.names

/-- The template of the remark on a command that has been registered. -/
def registeredTemplate : Text := "registered command '\x7bname\x7d'"

/-- The catalog with one more command, told to the log. -/
def registerTold (c : Catalog) (name : Text) (target : Target) : Run Failure Catalog := do
  let c ← Run.ofExcept ((c.register name target).mapError .catalog)
  Run.emit 2 "catalog" registeredTemplate [("name", .text name)]
  return c

end Catalog
end HelpPages
