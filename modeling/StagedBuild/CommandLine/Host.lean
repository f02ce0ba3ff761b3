import StagedBuild.CommandLine.Outcome
import StagedBuild.Script.Launch

/-!
# A workspace as host

Commands over a workspace: files are looked up in its tree, and tools are run by the script
interpreter.
-/

namespace StagedBuild.Workspace

/-- The host that a workspace is. -/
def host : CommandLine.Host (StateM Workspace) where
  isPresent path := return (← get).isPresent path
  readText path := return (← get).readText path
  makeDirectories path := modifyGet fun workspace => workspace.makeDirectories path
  start invocation := modifyGet fun workspace => workspace.start invocation

/-- Carries out a command line in a workspace. -/
def perform (workspace : Workspace) (args : List String) : CommandLine.Outcome × Workspace :=
  (CommandLine.perform host args).run workspace

end StagedBuild.Workspace
