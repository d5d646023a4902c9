import HelpPages.Program

/-! # The command

Runs the program on the files of this machine: those that a call may read are
looked up first, and the report is written at the end.
-/
namespace HelpPages

/-- This machine does not let the program read what is at a path. -/
def isDenied (path : String) : IO Bool := do
  try
    let _ ← IO.FS.readBinFile path
    return false
  catch
    | .permissionDenied .. => return true
    | _ => return false

/-- The file tree with what there is at a location of this machine.  Behind a slash only a
directory is closed. -/
def addNode (tree : FileTree) (l : Location) : IO FileTree := do
  let some path := Text.toString? l.text | return tree
  let found (node : Node) : FileTree := { tree with nodes := (l, node) :: tree.nodes }
  try
    let bytes ← IO.FS.readBinFile path
    return found (.file bytes.toList)
  catch
    | .noFileOrDirectory .. => return tree
    | .permissionDenied .. => do
      let node : Node := if ← isDenied (path ++ "/") then .directory else .file []
      return { found node with closed := l :: tree.closed }
    | _ => return found .directory

/-- The location that the environment gives under a name. -/
def locationFrom (name : String) : IO Location := do
  return Path.resolve [] ((← IO.getEnv name).getD "/")

/-- The bytes of the standard input. -/
def readStandardInput : IO Input := do
  let bytes ← (← IO.getStdin).readBinToEnd
  return .bytes bytes.toList

/-- Writes a text in UTF-8. -/
def write (stream : IO.FS.Stream) (t : Text) : IO Unit :=
  stream.write ⟨(Text.toUtf8 t).toArray⟩

end HelpPages

open HelpPages

/-- Runs the program with the words of its command line. -/
def main (arguments : List String) : IO UInt32 := do
  let place : Settings.Place := { here := ← locationFrom "PWD", home := ← locationFrom "HOME" }
  let call : Call := { line := arguments.map Text.ofString, place }
  let locations := call.paths.flatMap (Path.visited place.here)
  let files ← locations.eraseDups.foldlM addNode {}
  let input ← if call.readsInput then readStandardInput else pure (.bytes [])
  let report := { call with place := { place with files }, input }.run
  write (← IO.getStdout) report.output
  write (← IO.getStderr) report.errors
  match report.ending with
  | .exit code => return UInt32.ofNat code
  | .failure e => do
    write (← IO.getStderr) (e.message ++ "\n")
    return 1
