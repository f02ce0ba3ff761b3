import StagedBuild.CommandLine.Arguments
import StagedBuild.Config.File
import StagedBuild.Progress

/-!
# Commands of the command line

What each command does, over a host that gives access to files and tools. `compile` starts the
compiler once its configuration is loaded, every source can be accessed and the output directory
exists; `run` starts the runtime once the configuration is loaded and the archive is there. Both
pass on what the tool printed, and end with its status.
-/

namespace StagedBuild.CommandLine

/-- Access to files and tools. -/
structure Host (m : Type → Type) where
  /-- The path denotes something that can be accessed. -/
  isPresent : String → m Bool
  /-- The text of a file. -/
  readText : String → m (Except IoCause String)
  /-- Makes a directory with all directories above it. -/
  makeDirectories : String → m (Except IoCause Unit)
  /-- Starts a tool and waits for its end. -/
  start : Invocation → m (Option ToolOutput)

/-- How a command ends. -/
inductive Ending where
  /-- With a status and what was printed on standard error. -/
  | finished (status : Int32) (stderr : String)
  /-- With the report of an error and status one. -/
  | reported (message : String)
  /-- With a usage message and status two. -/
  | misused
  deriving DecidableEq, Repr

/-- What a command printed on standard output and how it ended. -/
structure Outcome where
  stdout : String
  ending : Ending
  deriving DecidableEq, Repr

namespace Outcome

/-- The exit status. -/
def status (outcome : Outcome) : Int32 :=
  match outcome.ending with
  | .finished status _ => status
  | .reported _ => 1
  | .misused => 2

/-- Passes on what a tool printed after `shown`; a tool that did not start is reported. -/
def ofTool (shown program : String) : Option ToolOutput → Outcome
  | none => ⟨shown, .reported s!"failed to start '{program}'"⟩
  | some output => ⟨shown ++ output.stdout, .finished (output.status.getD 1) output.stderr⟩

end Outcome

/-- Where progress lines go: to the event log when verbose, else to standard output unless
quiet. -/
def Verbosity.log (verbosity : Verbosity) : Log :=
  if verbosity.verbose then .tracing else Log.ofProgress (!verbosity.quiet)

variable {m : Type → Type} [Monad m]

/-- The configuration in a file, or the defaults if there is no such file. -/
def loadConfig (host : Host m) (path : String) : m (Except ConfigFileError ToolchainConfig) := do
  if ← host.isPresent path then return ToolchainConfig.ofFile path (← host.readText path)
  else return .ok {}

/-- The first of the files that cannot be accessed. -/
def firstMissing (host : Host m) : List String → m (Option String)
  | [] => return none
  | file :: rest => do
    if ← host.isPresent file then firstMissing host rest else return some file

/-- Compiles sources into the archive in an output directory. -/
def compile (host : Host m) (log : Log) (files : List String) (output config : String) :
    m Outcome := do
  match ← loadConfig host config with
  | .error e => return ⟨"", .reported e.context⟩
  | .ok config =>
    match ← firstMissing host files with
    | some file => return ⟨"", .reported s!"cannot access '{file}'"⟩
    | none =>
      match ← host.makeDirectories output with
      | .error _ => return ⟨"", .reported s!"failed to create '{output}'"⟩
      | .ok () =>
        let shown := log.printed s!"\t- Compiling {config.language.displayName}..."
        let ended ← host.start (config.compileInvocation files output)
        return .ofTool shown config.compiler ended

/-- Runs the archive in an output directory. -/
def run (host : Host m) (log : Log) (output config : String) (arguments : List String) :
    m Outcome := do
  match ← loadConfig host config with
  | .error e => return ⟨"", .reported e.context⟩
  | .ok config =>
    let archive := ArtifactPath.archive output config.language
    if ← host.isPresent archive then
      let shown := log.printed s!"\t- Running {config.language.displayName}..."
      let ended ← host.start (config.runInvocation output arguments)
      return .ofTool shown config.runtime ended
    else
      return ⟨"", .reported
        ("no compiled archive at '" ++ archive ++ "', run `wyvern compile` first")⟩

/-- Prints the configuration in use. -/
def showConfig (host : Host m) (path : String) : m Outcome := do
  match ← loadConfig host path with
  | .error e => return ⟨"", .reported e.context⟩
  | .ok config =>
    let notice := if ← host.isPresent path then "" else s!"{path} not found, using defaults\n"
    return ⟨config.toToml, .finished 0 notice⟩

/-- Carries out a request. Help and completions are printed by the outer program. -/
def Request.perform (host : Host m) : Request → m Outcome
  | .version => return ⟨"wyvern 0.3.0\n", .finished 0 ""⟩
  | .help => return ⟨"", .finished 0 ""⟩
  | .command verbosity asked =>
    match asked with
    | .compile files output config => compile host verbosity.log files output config
    | .run output config arguments => run host verbosity.log output config arguments
    | .config path => showConfig host path
    | .completions _ => return ⟨"", .finished 0 ""⟩

/-- Carries out a command line. -/
def perform (host : Host m) (args : List String) : m Outcome :=
  match Request.ofArguments? args with
  | some request => request.perform host
  | none => return ⟨"", .misused⟩

end StagedBuild.CommandLine
