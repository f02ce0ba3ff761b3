import StagedBuild.ArtifactPath
import StagedBuild.FilePath

/-!
# External tools

How the compiler and the runtime are called. The compiler is told the path of the archive, which is
named behind the output directory; the runtime is started in that directory and told the archive's
name alone.
-/

namespace StagedBuild

/-- The tools that build and run generated sources. -/
structure ToolchainConfig where
  language : Target := .kotlin
  compiler : String := "/opt/kotlinc/bin/kotlinc"
  runtime : String := "java"
  deriving DecidableEq, Repr, Inhabited

/-- Exit status and captured output of a tool. There is no status when a signal ended it. -/
structure ToolOutput where
  status : Option Int32
  stdout : String
  stderr : String
  deriving DecidableEq, Repr

/-- The tool ended with status zero. -/
def ToolOutput.succeeded (output : ToolOutput) : Bool :=
  output.status == some 0

/-- One start of a tool. -/
structure Invocation where
  program : String
  arguments : List String
  workingDir : Option String
  deriving DecidableEq, Repr

namespace ToolchainConfig

/-- The same language, and tools at the same paths, however these are spelt. -/
def agrees (a b : ToolchainConfig) : Bool :=
  a.language == b.language && FilePath.ofText a.compiler == FilePath.ofText b.compiler &&
    FilePath.ofText a.runtime == FilePath.ofText b.runtime

/-- What the compiler is told: the archive to make, then the sources. -/
def compileArguments (config : ToolchainConfig) (paths : List String) (outputDir : String) :
    List String :=
  "-include-runtime" :: "-d" :: ArtifactPath.archive outputDir config.language :: paths

/-- What the runtime is told: the archive, by its name alone, then the program's arguments. -/
def runArguments (config : ToolchainConfig) (arguments : List String) : List String :=
  "-jar" :: config.language.archiveName :: arguments

/-- The start of the compiler, in the directory we are in. -/
def compileInvocation (config : ToolchainConfig) (paths : List String) (outputDir : String) :
    Invocation :=
  ⟨config.compiler, config.compileArguments paths outputDir, none⟩

/-- The start of the runtime, in the output directory. -/
def runInvocation (config : ToolchainConfig) (outputDir : String) (arguments : List String) :
    Invocation :=
  ⟨config.runtime, config.runArguments arguments, some outputDir⟩

end ToolchainConfig

/-- A runner of tools: its name in the history of calls, and its answer to an invocation after a
history `η`. There is no answer when the tool cannot be started. -/
structure Toolchain (η : Type) where
  name : String
  answer : η → Invocation → Option ToolOutput

/-- A runner together with the tools it is to run. -/
structure Bridge (η : Type) where
  toolchain : Toolchain η
  config : ToolchainConfig

namespace Bridge

variable {η : Type}

/-- Replaces the runner and keeps the tools. -/
def withToolchain (bridge : Bridge η) (toolchain : Toolchain η) : Bridge η :=
  { bridge with toolchain }

/-- Replaces the tools and keeps the runner. -/
def withConfig (bridge : Bridge η) (config : ToolchainConfig) : Bridge η :=
  { bridge with config }

/-- The language of the sources that are compiled. -/
def language (bridge : Bridge η) : Target := bridge.config.language

end Bridge

end StagedBuild
