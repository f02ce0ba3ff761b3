import StagedBuild.CommandLine.Host

/-!
# The program

The command line over the real file system. Tools are run by the script interpreter on a copy of
the working directory; what they wrote is copied back. So the tools that can be started are the
interpreter's small programs and scripts below the working directory.
-/

namespace StagedBuild.Program

/-- The cause of an error of the system. -/
def causeOf : IO.Error → IoCause
  | .noFileOrDirectory .. => .os .notFound
  | .permissionDenied .. => .os .permissionDenied
  | .alreadyExists .. => .os .alreadyExists
  | .inappropriateType .. => .os .notDirectory
  | e => .custom e.toString []

/-- Adds what lies below a directory to a workspace. Scripts count as executable. -/
partial def collect (before : String) (workspace : Workspace) : IO Workspace := do
  let dir := (← IO.currentDir) / before
  (← dir.readDir).foldlM (fun workspace entry => do
    let path := before ++ entry.fileName
    if ← entry.path.isDir then
      collect (path ++ "/") (workspace.makeDirectories path).2
    else
      let bytes ← IO.FS.readBinFile entry.path
      let isScript := bytes.toList.take 2 == [35, 33]
      return workspace.place path bytes isScript) workspace

/-- The working directory as a workspace. -/
def workspace : IO Workspace :=
  collect "" Workspace.fresh

/-- Copies what a tool made or changed below a directory back into the working directory. -/
partial def copyBack (before : String) (dir : NodeId) (old new : FileTree) : IO Unit := do
  for (name, id) in new.entries dir do
    let path := before ++ Text.Octets.toText name
    match new.content id with
    | .directory .. =>
      IO.FS.createDirAll ((← IO.currentDir) / path)
      copyBack (path ++ "/") id old new
    | .file bytes =>
      let isOld := match old.content id with
        | .file known => known.toList == bytes.toList
        | _ => false
      if !isOld then IO.FS.writeBinFile ((← IO.currentDir) / path) bytes
    | _ => pure ()

/-- Starts a tool on a copy of the working directory. -/
def start (invocation : Invocation) : IO (Option ToolOutput) := do
  let before ← workspace
  let (output, after) := before.start invocation
  copyBack "" before.dir before.tree after.tree
  return output

/-- The real file system. -/
def host : CommandLine.Host IO where
  isPresent path := return ← ((← IO.currentDir) / path).pathExists
  readText path := do
    try
      let bytes ← IO.FS.readBinFile ((← IO.currentDir) / path)
      return match Text.Utf8.decode? bytes.toList with
        | some text => .ok text
        | none => .error .notText
    catch e => return .error (causeOf e)
  makeDirectories path := do
    try
      if !path.isEmpty then IO.FS.createDirAll ((← IO.currentDir) / path)
      return .ok ()
    catch e => return .error (causeOf e)
  start := start

/-- How the program is called. -/
def usage : String :=
  "usage: wyvern [-v | -q] compile FILES... [-o DIR] [-c FILE]\n" ++
  "       wyvern [-v | -q] run [-o DIR] [-c FILE] [-- ARGS...]\n" ++
  "       wyvern [-v | -q] config [-c FILE]\n"

end StagedBuild.Program

open StagedBuild in
/-- Carries out the command line and ends with its status. -/
def main (args : List String) : IO UInt32 := do
  let outcome ← CommandLine.perform Program.host args
  IO.print outcome.stdout
  if CommandLine.Request.ofArguments? args = some .help then IO.print Program.usage
  match outcome.ending with
  | .finished _ stderr => IO.eprint stderr
  | .reported message => IO.eprintln s!"Error: {message}"
  | .misused => IO.eprint Program.usage
  return outcome.status.toUInt32
