import HelpPages.Path
import HelpPages.Text.Quoted

/-! # File trees

A file tree has directories and files at its locations.  A file is read by
following a path name by name, and every name but the last must be that of a
directory.  The program may not look into a closed directory, nor read a closed
file.
-/
namespace HelpPages

/-- What there is at a location. -/
inductive Node where
  | directory
  | file (bytes : List UInt8)
deriving DecidableEq, Repr

/-- A file tree: what there is at the locations that are not only on the way to
others. -/
structure FileTree where
  nodes : List (Location × Node) := []
  /-- The locations of closed directories and files. -/
  closed : List Location := []
deriving DecidableEq, Repr

namespace FileTree

/-- Why the file at a path cannot be read. -/
inductive Error where
  | missing (path : Text)
  | notDirectory (path : Text)
  | isDirectory (path : Text)
  /-- The path, or a name in it, is longer than the file system allows. -/
  | tooLong (path : Text)
  /-- The program may not look into a directory on the way, or may not read what is at its end. -/
  | denied (path : Text)
  /-- The path holds the character U+0000. -/
  | hasNull
  /-- The path has no form in bytes. -/
  | unencodable
deriving DecidableEq, Repr

/-- The wording of an error. -/
def Error.message : Error → Text
  | missing path => "[Errno 2] No such file or directory: " ++ Text.quoted path
  | notDirectory path => "[Errno 20] Not a directory: " ++ Text.quoted path
  | isDirectory path => "[Errno 21] Is a directory: " ++ Text.quoted path
  | tooLong path => "[Errno 36] File name too long: " ++ Text.quoted path
  | denied path => "[Errno 13] Permission denied: " ++ Text.quoted path
  | hasNull => "embedded null byte"
  | unencodable => "a path has no form in bytes"

/-- The file system itself answers with the error; other errors are found before
it is asked. -/
def Error.isOfSystem : Error → Bool
  | hasNull | unencodable => false
  | _ => true

/-- The most bytes that a name may have. -/
def maxNameSize : Nat := 255

/-- The most bytes that a path may have. -/
def maxPathSize : Nat := 4095

/-- The bytes of a code point in a path.  The halves of surrogate pairs from
U+DC80 to U+DCFF stand for single bytes, and the others have none. -/
def codePointBytes? (c : CodePoint) : Option (List UInt8) :=
  if c.isChar then some c.toUtf8
  else if 0xDC80 ≤ c.toNat ∧ c.toNat ≤ 0xDCFF then some [UInt8.ofNat (c.toNat - 0xDC00)]
  else none

/-- The bytes of a path or of a name in it. -/
def bytes? (path : Text) : Option (List UInt8) := return (← path.mapM codePointBytes?).flatten

/-- How many bytes a path takes. -/
def size? (path : Text) : Option Nat := (bytes? path).map List.length

/-- The bytes of the names on the way to a location.  Names with the same bytes
are the same name. -/
def key? (l : Location) : Option (List (List UInt8)) := l.mapM bytes?

/-- A path that the file system can be asked for. -/
def checkForm (path : Text) : Except Error Unit :=
  match size? path with
  | none => .error .unencodable
  | some _ => if path.contains '\x00' then .error .hasNull else .ok ()

/-- A path that is not too long. -/
def checkSize (path : Text) : Except Error Unit :=
  if maxPathSize < (size? path).getD 0 then .error (.tooLong path) else .ok ()

/-- What there is at a location.  The root and all that is on the way to a node
are directories. -/
def node? (tree : FileTree) (l : Location) : Option Node := do
  let key ← key? l
  match tree.nodes.find? fun (other, _) => key? other = some key with
  | some (_, node) => some node
  | none =>
    if key = [] ∨ tree.nodes.any (fun (other, _) => (key? other).any key.isPrefixOf) then
      some .directory
    else none

/-- What is at a location is closed to the program. -/
def isClosed (tree : FileTree) (l : Location) : Bool :=
  tree.closed.any fun other => key? other = key? l

/-- The location to which names lead from a location.  An empty name asks for a directory and
stays there. -/
def walk (tree : FileTree) (path : Text) (here : Location) : List Text → Except Error Location
  | [] => .ok here
  | name :: names =>
    match tree.node? here with
    | none => .error (.missing path)
    | some (.file _) => .error (.notDirectory path)
    | some .directory =>
      if name = [] then walk tree path here names
      else if tree.isClosed here then .error (.denied path)
      else if maxNameSize < (size? name).getD 0 then .error (.tooLong path)
      else walk tree path (if name = "." then here else Path.follow here name) names

/-- Where a path leads, and what there is. -/
def find (tree : FileTree) (here : Location) (path : Text) : Except Error (Location × Node) := do
  checkForm path
  if path = [] then throw (.missing path)
  checkSize path
  let start := if path.head? = some '/' then [] else here
  let l ← tree.walk path start (Text.splitOn '/' path)
  match tree.node? l with
  | none => throw (.missing path)
  | some node => return (l, node)

/-- The bytes of the file at a path. -/
def read (tree : FileTree) (here : Location) (path : Text) : Except Error (List UInt8) := do
  let (l, node) ← tree.find here path
  if tree.isClosed l then throw (.denied path)
  match node with
  | .directory => throw (.isDirectory path)
  | .file bytes => return bytes

/-- The question whether there is a file at a path is answered by an error: the path leads to
nothing. -/
def Error.saysNo : Error → Bool
  | tooLong _ | denied _ => false
  | _ => true

/-- There is a file at a location.  A path that is too long or that may not be followed to its
end is an error. -/
def isFile (tree : FileTree) (l : Location) : Except Error Bool :=
  match tree.find [] l.text with
  | .ok (_, .file _) => .ok true
  | .ok (_, .directory) => .ok false
  | .error e => if e.saysNo then .ok false else .error e

/-- The first of some locations at which there is a file. -/
def firstFile? (tree : FileTree) : List Location → Except Error (Option Location)
  | [] => .ok none
  | l :: ls => do if ← tree.isFile l then return some l else tree.firstFile? ls

end FileTree
end HelpPages
