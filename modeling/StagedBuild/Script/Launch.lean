import StagedBuild.Script.Run
import StagedBuild.Script.SystemFiles
import StagedBuild.Toolchain
import StagedBuild.Workspace

/-!
# Starting tools

A workspace starts with the programs and devices of the system and an empty working directory. A
tool that is started there reads nothing; what it and its children print is caught, and the files
they leave stay.
-/

namespace StagedBuild.Workspace

open Script Process

/-- How deep commands may be nested. -/
def maxDepth : Nat := 100000000

/-- How often processes may take turns. -/
def maxTurns : Nat := 100000000

/-- The time at which work in a workspace starts, in billionths of a second since 1970. -/
def startTime : Nat := 1795046400000000000

/-- The workspace with the programs and devices of the system and an empty working directory. -/
def fresh : Workspace :=
  let tree := { SystemFiles.tree with now := startTime }
  ⟨tree, (tree.find FileTree.root "/tmp/work").toOption.getD FileTree.root⟩

/-- The variables that tools are given. -/
def environment : List (String × String) :=
  [("HOME", "/root"), ("LC_CTYPE", "C.UTF-8"), ("PATH", Program.defaultPath)]

/-- The status of a process that cannot become a program. -/
def startFailure : Nat := 1000

/-- The course of a process that becomes a program. A file without an interpreter is none. -/
def courseOf (call : Call) : Course :=
  let shell := Shell.run (perform maxDepth)
  let paths := Program.candidates Program.defaultPath call.name
  let start (path : String) : Act OsError :=
    Program.become shell Program.maxStarts Program.maxScripts path call
  Program.firstOf start .notFound paths fun _ => .ended (.status startFailure)

/-- A world with one process, whose output goes to two pipes. -/
def worldOf (tree : FileTree) (dir : NodeId) : World :=
  { tree
    channels := #[.device .null, .writeEnd 0, .writeEnd 1]
    pipes := #[{ outside := true }, { outside := true }]
    processes := #[{ dir, descriptors := [(0, 0), (1, 1), (2, 2)] }]
    running := [World.firstNumber]
    clock := tree.now + 1000000000 }

/-- The first process has ended, and nobody can print any more. -/
def isFinished (world : World) : Bool :=
  (world.process World.firstNumber).ending.isSome && !world.isWritten 0 && !world.isWritten 1

/-- Starts a tool in a directory and waits for its end. Nothing if there is no such program. There
is no status if a signal ended it. -/
def startIn (workspace : Workspace) (dir : NodeId) (program : String) (arguments : List String) :
    Option ToolOutput × Workspace :=
  let call : Call := {
    name := Text.Octets.ofText program, args := arguments.map Text.Octets.ofText, environment }
  let (inTime, world) := Course.runAll isFinished maxTurns
    [(World.firstNumber, courseOf call)] (worldOf workspace.tree dir)
  let text (pipe : Nat) : String := Text.Utf8.decodeLossy (world.collected pipe).toList
  let output := match (world.process World.firstNumber).ending, inTime with
    | some (.status status), _ =>
      if status = startFailure then none else some ⟨some (Int32.ofNat status), text 0, text 1⟩
    | _, _ => some ⟨none, text 0, text 1⟩
  (output, { workspace with tree := world.tree })

/-- Starts a tool and waits for its end. Nothing if it cannot be started: the directory to start it
in does not exist, there is no such program, or some text holds a NUL character. -/
def start (workspace : Workspace) (invocation : Invocation) : Option ToolOutput × Workspace :=
  let texts := invocation.program :: invocation.arguments ++ invocation.workingDir.toList
  let dir := match invocation.workingDir with
    | none => some workspace.dir
    | some path =>
      ((workspace.tree.find workspace.dir (Text.Octets.ofText path)).toOption).filter
        workspace.tree.isDirectory
  match dir, texts.all fun text => (checkPath text).toOption.isSome with
  | some dir, true => workspace.startIn dir invocation.program invocation.arguments
  | _, _ => (none, workspace)

end StagedBuild.Workspace
