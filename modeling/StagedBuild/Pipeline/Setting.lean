import StagedBuild.Pipeline

/-!
# Setting up a pipeline

A new pipeline prints its progress and uses the default tools. Each setting replaces one part of
it: the process runner and the tools it runs can be set apart or together. A log can also be handed
over in a box, by a setter of its own; the log is the same value in either form, so `Setting.log`
stands for both setters.
-/

namespace StagedBuild.Pipeline

variable {δ τ : Type}

/-- A pipeline with the default tools that prints its progress. -/
def new (stages : Stages δ τ) (fileSystem : FileSystem (History δ τ))
    (toolchain : Toolchain (History δ τ)) : Pipeline δ τ where
  stages
  fileSystem
  bridge := ⟨toolchain, {}⟩
  log := .stdout

/-- A replacement of one part of a pipeline. -/
inductive Setting (δ τ : Type) where
  /-- The file system that dumps are read from and sources written to. -/
  | fileSystem (fileSystem : FileSystem (History δ τ))
  /-- The process runner; the tools stay. -/
  | toolchain (toolchain : Toolchain (History δ τ))
  /-- The tools; the process runner stays. -/
  | config (config : ToolchainConfig)
  /-- The process runner and the tools. -/
  | bridge (bridge : Bridge (History δ τ))
  /-- The log of progress lines. -/
  | log (log : Log)
  /-- The log that prints progress lines or drops them. -/
  | logProgress (enabled : Bool)

/-- The pipeline with one part replaced. -/
def set (pipeline : Pipeline δ τ) : Setting δ τ → Pipeline δ τ
  | .fileSystem fileSystem => { pipeline with fileSystem }
  | .toolchain toolchain => { pipeline with bridge := pipeline.bridge.withToolchain toolchain }
  | .config config => { pipeline with bridge := pipeline.bridge.withConfig config }
  | .bridge bridge => { pipeline with bridge }
  | .log log => { pipeline with log }
  | .logProgress enabled => { pipeline with log := Log.ofProgress enabled }

/-- The pipeline after all settings, in order. -/
def setAll (pipeline : Pipeline δ τ) (settings : List (Setting δ τ)) : Pipeline δ τ :=
  settings.foldl set pipeline

end StagedBuild.Pipeline
