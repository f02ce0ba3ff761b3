import StagedBuild.Pipeline

/-!
# Operations of a pipeline

Everything a pipeline can be asked to do, as one type, so that what holds of all operations can be
said once.
-/

namespace StagedBuild.Pipeline

variable {δ τ : Type}

/-- What a pipeline is asked to do. -/
inductive Operation (τ : Type) where
  | decode (inputs : List String)
  | translate (inputs : List String)
  | firstRound (inputs : List String)
  | bothRounds (inputs : List String)
  | applyRound (round : PassRound) (trees : Batch τ)
  | generate (inputs : List String)
  | compile (inputs : List String) (outputDir : String)
  | run (inputs : List String) (outputDir : String) (arguments : List String)
  deriving DecidableEq, Repr

/-- What an operation gives. -/
inductive Product (δ τ : Type) where
  | decoded (trees : Batch δ)
  | trees (trees : Batch τ)
  | sources (sources : Batch String)
  | output (output : Option ToolOutput)
  deriving DecidableEq, Repr

/-- Carries out an operation. -/
def perform (pipeline : Pipeline δ τ) : Operation τ → Action δ τ (Product δ τ)
  | .decode inputs => .decoded <$> pipeline.decode inputs
  | .translate inputs => .trees <$> pipeline.translate inputs
  | .firstRound inputs => .trees <$> pipeline.runFirstRound inputs
  | .bothRounds inputs => .trees <$> pipeline.runBothRounds inputs
  | .applyRound round trees => .trees <$> pipeline.applyRound round trees
  | .generate inputs => .sources <$> pipeline.generate inputs
  | .compile inputs outputDir => .output <$> pipeline.compile inputs outputDir
  | .run inputs outputDir arguments => .output <$> pipeline.run inputs outputDir arguments

end StagedBuild.Pipeline
