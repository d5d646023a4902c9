import HelpPages.Text.Basic

/-! # Paths

A path is a text of names between slashes.  It leads from a location, or from
the root if it starts with a slash, to another location: a list of names from
the root on.
-/
namespace HelpPages

/-- A place in a file tree: the names from the root to it. -/
abbrev Location := List Text

/-- The path of a location. -/
def Location.text (l : Location) : Text := '/' :: Text.joinWith "/" l

namespace Path

/-- The names in a path, without those that lead nowhere. -/
def names (path : Text) : List Text :=
  (Text.splitOn '/' path).filter fun name => name ≠ [] ∧ name ≠ "."

/-- The last name in a path. -/
def lastName (path : Text) : Text := (names path).getLastD []

/-- What stands behind the last slash of a path. -/
def baseName (path : Text) : Text := (path.reverse.takeWhile (!·.is '/')).reverse

/-- The slashes that a path starts with: exactly two are kept, more are one. -/
def root (path : Text) : Text :=
  match (path.takeWhile (·.is '/')).length with
  | 0 => []
  | 2 => "//"
  | _ => "/"

/-- The path without names that lead nowhere. -/
def normal (path : Text) : Text :=
  let text := root path ++ Text.joinWith "/" (names path)
  if text = [] then "." else text

/-- The location to which one name leads. -/
def follow (here : Location) (name : Text) : Location :=
  if name = ".." then here.dropLast else here ++ [name]

/-- The location to which a path leads, whatever there is on the way. -/
def resolve (here : Location) (path : Text) : Location :=
  (names path).foldl follow (if path.head? = some '/' then [] else here)

/-- The locations on the way of a path, its end included. -/
def visited (here : Location) (path : Text) : List Location :=
  let start : Location := if path.head? = some '/' then [] else here
  (List.range ((names path).length + 1)).map fun n => ((names path).take n).foldl follow start

end Path
end HelpPages
