import StagedBuild.Batch
import StagedBuild.Progress
import StagedBuild.Toolchain

/-!
# The build pipeline

A pipeline reads and decodes syntax dumps, translates the trees, runs two rounds of passes over
them and generates sources; it can then write and compile the sources and run the program. Each
stage works on the whole batch before the next one starts.

The work itself is done by collaborators. A collaborator is a function of the calls made so far,
so its answers may depend on everything that happened before; every call is added to the history,
which is the world of the pipeline's steps.
-/

namespace StagedBuild

/-- The rounds of passes over a tree. -/
inductive PassRound where
  | first
  | second
  deriving DecidableEq, Repr

/-- The round's name in progress lines. -/
def PassRound.name : PassRound → String
  | .first => "first"
  | .second => "second"

namespace Pipeline

/-- A call of a collaborator with its arguments. Decoded trees are `δ`, translated ones `τ`. -/
inductive Call (δ τ : Type) where
  | read (path : String)
  | decode (dump : String)
  | translate (tree : δ) (asMainFile : Bool)
  | refresh
  | runRound (round : PassRound) (tree : τ)
  | generate (tree : τ)
  | write (path contents : String)
  | invoke (toolchain : String) (invocation : Invocation)
  | emit (log : Log) (line : String)
  deriving DecidableEq, Repr

/-- The calls made so far, oldest first. -/
abbrev History (δ τ : Type) := List (Call δ τ)

/-- Reads dumps and writes sources. -/
structure FileSystem (η : Type) where
  read : η → String → Except Failure String
  write : η → String → String → Except Failure Unit

/-- Runs passes. A round never fails; it gives the new tree and the warnings to record. The program
lends a round the whole store, which could change anything in it; what passes are documented to do
with it is to record warnings, and only that is modelled. -/
structure PassRunner (η τ : Type) where
  refresh : η → Except Failure Unit
  runRound : η → PassRound → τ → τ × List Diagnostic

/-- The collaborators that know about trees. -/
structure Stages (δ τ : Type) where
  decode : History δ τ → String → Except Failure δ
  translate : History δ τ → δ → Bool → Except Failure τ
  passes : PassRunner (History δ τ) τ
  generate : History δ τ → τ → Except Failure String

end Pipeline

open Pipeline in
/-- All collaborators of a pipeline. -/
structure Pipeline (δ τ : Type) where
  stages : Stages δ τ
  fileSystem : FileSystem (History δ τ)
  bridge : Bridge (History δ τ)
  log : Log

namespace Pipeline

variable {δ τ α : Type}

/-- A step of a pipeline: its world is the history of calls. -/
abbrev Action (δ τ α : Type) := Step (History δ τ) α

/-- Adds a call to the history and takes the collaborator's answer, which is a function of the
calls before it. -/
def call (made : Call δ τ) (answer : History δ τ → α) : Action δ τ α :=
  fun session => (.ok (answer session.world), { session with world := session.world ++ [made] })

/-- A call whose answer may be a failure. -/
def tryCall (made : Call δ τ) (answer : History δ τ → Except Failure α) : Action δ τ α :=
  call made answer >>= Step.ofExcept

variable (pipeline : Pipeline δ τ)

/-- Announces what comes next. -/
def emit (line : String) : Action δ τ Unit :=
  call (.emit pipeline.log line) fun _ => ()

/-- Reads one dump and decodes it. -/
def decodeFile (path : String) : Action δ τ δ := do
  let dump ← tryCall (.read path) fun history => pipeline.fileSystem.read history path
  tryCall (.decode dump) fun history => pipeline.stages.decode history dump

/-- Translates one tree, as the program's entry unit or as a library unit. -/
def translateTree (asMainFile : Bool) (tree : δ) : Action δ τ τ :=
  tryCall (.translate tree asMainFile) fun history =>
    pipeline.stages.translate history tree asMainFile

/-- Makes the library definitions anew. -/
def refreshLibrary : Action δ τ Unit :=
  tryCall .refresh pipeline.stages.passes.refresh

/-- Runs one round over a tree and records its warnings. -/
def runRound (round : PassRound) (tree : τ) : Action δ τ τ := do
  let (changed, warnings) ← call (.runRound round tree) fun history =>
    pipeline.stages.passes.runRound history round tree
  Step.modifyStore fun store => warnings.foldl Store.recordWarning store
  return changed

/-- Generates the source of one tree. -/
def generateSource (tree : τ) : Action δ τ String :=
  tryCall (.generate tree) fun history => pipeline.stages.generate history tree

/-- Writes one source. -/
def writeSource (path source : String) : Action δ τ Unit :=
  tryCall (.write path source) fun history => pipeline.fileSystem.write history path source

/-- Starts a tool. -/
def invoke (invocation : Invocation) : Action δ τ (Option ToolOutput) :=
  call (.invoke pipeline.bridge.toolchain.name invocation) fun history =>
    pipeline.bridge.toolchain.answer history invocation

/-- Reads and decodes every input. -/
def decode (inputs : List String) : Action δ τ (Batch δ) := do
  pipeline.emit "\t- Decoding AST dumps..."
  (Batch.ofList inputs).tryMap pipeline.decodeFile

/-- Decodes, then translates every tree; a lone input is the program's entry unit. -/
def translate (inputs : List String) : Action δ τ (Batch τ) := do
  let decoded ← pipeline.decode inputs
  pipeline.emit "\t- Translating decoded trees..."
  decoded.tryMap (pipeline.translateTree (isSingle inputs))

/-- Runs one round over every tree of a batch; the library is made anew for each tree. -/
def applyRound (round : PassRound) (trees : Batch τ) : Action δ τ (Batch τ) := do
  pipeline.emit s!"\t- Running {round.name} round of passes..."
  trees.tryMap fun tree => do
    pipeline.refreshLibrary
    pipeline.runRound round tree

/-- Runs both rounds over every tree of a batch; the library is made anew once a tree. -/
def applyBothRounds (trees : Batch τ) : Action δ τ (Batch τ) := do
  pipeline.emit "\t- Running both rounds of passes..."
  trees.tryMap fun tree => do
    pipeline.refreshLibrary
    let changed ← pipeline.runRound .first tree
    pipeline.runRound .second changed

/-- Translates, then runs the first round. -/
def runFirstRound (inputs : List String) : Action δ τ (Batch τ) :=
  pipeline.translate inputs >>= pipeline.applyRound .first

/-- Translates, then runs both rounds. -/
def runBothRounds (inputs : List String) : Action δ τ (Batch τ) :=
  pipeline.translate inputs >>= pipeline.applyBothRounds

/-- Runs both rounds, then generates every source. -/
def generate (inputs : List String) : Action δ τ (Batch String) := do
  let trees ← pipeline.runBothRounds inputs
  pipeline.emit s!"\t- Generating {pipeline.bridge.language.displayName}..."
  trees.tryMap pipeline.generateSource

/-- Writes the source of one input behind the output directory and gives its path. -/
def writeInput (outputDir : String) (input source : String) : Action δ τ String := do
  let path := ArtifactPath.source input outputDir pipeline.bridge.language
  pipeline.writeSource path source
  return path

/-- Writes the source of each input that has one and gives the paths of those that could be
written. A failure goes to the store. -/
def writeAll (outputDir : String) : List (String × Option String) → Action δ τ (List String)
  | [] => return []
  | (_, none) :: rest => writeAll outputDir rest
  | (input, some source) :: rest => do
    match ← (pipeline.writeInput outputDir input source).attempt with
    | some path => return path :: (← writeAll outputDir rest)
    | none => writeAll outputDir rest

/-- Generates the sources, writes them to the output directory, and compiles those that could be
written. -/
def compile (inputs : List String) (outputDir : String) : Action δ τ (Option ToolOutput) := do
  let sources ← pipeline.generate inputs
  let written ← pipeline.writeAll outputDir (inputs.zip sources.slots)
  pipeline.emit s!"\t- Compiling {pipeline.bridge.language.displayName}..."
  pipeline.invoke (pipeline.bridge.config.compileInvocation written outputDir)

/-- Compiles, and runs the program if the compiler ended with status zero. -/
def run (inputs : List String) (outputDir : String) (arguments : List String) :
    Action δ τ (Option ToolOutput) := do
  let compiled ← pipeline.compile inputs outputDir
  if compiled.any ToolOutput.succeeded then
    pipeline.emit s!"\t- Running {pipeline.bridge.language.displayName}..."
    pipeline.invoke (pipeline.bridge.config.runInvocation outputDir arguments)
  else return compiled

end Pipeline

end StagedBuild
