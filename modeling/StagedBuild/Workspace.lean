import StagedBuild.Failure
import StagedBuild.FileTree
import StagedBuild.Text.Octets

/-!
# Workspaces

A file tree together with the directory we are in. Paths are text here. Reading and writing text
files fails with the cause that a diagnostic shows.
-/

namespace StagedBuild

/-- A file tree and the directory that relative paths start from. -/
structure Workspace where
  tree : FileTree
  dir : NodeId
  deriving Inhabited

namespace Workspace

/-- Refuses a path that holds a NUL character. -/
def checkPath (path : String) : Except IoCause Unit :=
  if path.contains (Char.ofNat 0) then .error .nulInPath else .ok ()

/-- The text of a file. -/
def readText (workspace : Workspace) (path : String) : Except IoCause String := do
  checkPath path
  let bytes ← (workspace.tree.read workspace.dir (Text.Octets.ofText path)).mapError .os
  match Text.Utf8.decode? bytes.toList with
  | some text => return text
  | none => throw .notText

/-- The path denotes something that can be looked at. -/
def isPresent (workspace : Workspace) (path : String) : Bool :=
  (checkPath path).toOption.isSome &&
    workspace.tree.isPresent workspace.dir (Text.Octets.ofText path)

/-- The path denotes a directory, or something else; nothing if it denotes nothing. -/
def isDirectory? (workspace : Workspace) (path : String) : Option Bool :=
  match workspace.tree.find workspace.dir (Text.Octets.ofText path) with
  | .ok id => some (workspace.tree.isDirectory id)
  | .error _ => none

/-- Makes a directory with all directories above it. -/
def makeDirectories (workspace : Workspace) (path : String) : Except IoCause Unit × Workspace :=
  match checkPath path with
  | .error cause => (.error cause, workspace)
  | .ok () =>
    let (result, tree) := workspace.tree.makeDirectories workspace.dir (Text.Octets.ofText path)
    (result.mapError .os, { workspace with tree })

/-- Writes bytes to a file, in a directory that is made if need be. -/
def writeBytes (workspace : Workspace) (path : String) (bytes : ByteArray) :
    Except IoCause Unit × Workspace :=
  let (made, workspace) := match FilePath.parent? path with
    | some parent => workspace.makeDirectories parent
    | none => (.ok (), workspace)
  match made, checkPath path with
  | .error cause, _ | .ok (), .error cause => (.error cause, workspace)
  | .ok (), .ok () =>
    match workspace.tree.write workspace.dir (Text.Octets.ofText path) bytes with
    | .ok tree => (.ok (), { workspace with tree })
    | .error e => (.error (.os e), workspace)

/-- Writes a text file, in a directory that is made if need be. -/
def writeText (workspace : Workspace) (path text : String) : Except IoCause Unit × Workspace :=
  workspace.writeBytes path text.toUTF8

/-- The workspace with a file that has these bytes, in a directory that is made if need be. -/
def place (workspace : Workspace) (path : String) (bytes : ByteArray) (executable : Bool) :
    Workspace :=
  let workspace := (workspace.writeBytes path bytes).2
  if !executable then workspace
  else match workspace.tree.find workspace.dir (Text.Octets.ofText path) with
    | .ok id => { workspace with
        tree := workspace.tree.update id fun node =>
          { node with rights := FileTree.programRights } }
    | .error _ => workspace

/-- Where a file operation of the build tool failed. -/
def ioSite (function : String) : ThrowSite :=
  ⟨"stages.rs", 0, function⟩

/-- Reads a file as the pipeline does. -/
def readDump (workspace : Workspace) (path : String) : Except Failure String :=
  (workspace.readText path).mapError fun cause =>
    .file .read path cause (ioSite "read_file")

/-- Writes a file as the pipeline does. -/
def writeSource (workspace : Workspace) (path text : String) : Except Failure Unit × Workspace :=
  let (result, workspace) := workspace.writeText path text
  (result.mapError fun cause => .file .write path cause (ioSite "write_file"), workspace)

end Workspace

end StagedBuild
