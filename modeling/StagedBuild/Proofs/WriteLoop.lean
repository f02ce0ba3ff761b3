import StagedBuild.Pipeline

/-!
# The loop that writes sources

`compile` goes through the inputs and their slots and writes each source that there is. That is one
more stage of the batch: the paths that the loop gives are the successes of `tryMap` over the slots
beside their inputs (`writeAll_eq`). So `compile` has two parts, generating and writing as stages,
and starting the compiler (`compile_parts`).
-/

namespace StagedBuild

/-- Puts each input beside its slot; inputs without a slot are left out. -/
def Batch.withInputs {α β : Type} (batch : Batch α) (inputs : List β) : Batch (β × α) :=
  ⟨inputs.zipWith (fun input slot => slot.map fun value => (input, value)) batch.slots⟩

namespace Pipeline

variable {δ τ : Type} (pipeline : Pipeline δ τ)

/-- Writes the sources of a batch, as a stage. -/
def writeStage (inputs : List String) (outputDir : String) (sources : Batch String) :
    Action δ τ (Batch String) :=
  (sources.withInputs inputs).tryMap fun pair => pipeline.writeInput outputDir pair.1 pair.2

/-- Generates the sources and writes them. -/
def writeSources (inputs : List String) (outputDir : String) : Action δ τ (Batch String) := do
  let sources ← pipeline.generate inputs
  pipeline.writeStage inputs outputDir sources

/-- Compiles what was written. -/
def compileSources (outputDir : String) (written : Batch String) :
    Action δ τ (Option ToolOutput) := do
  pipeline.emit s!"\t- Compiling {pipeline.bridge.language.displayName}..."
  pipeline.invoke (pipeline.bridge.config.compileInvocation written.successes outputDir)

/-- The loop gives the paths that the stage succeeds with, in the same session. -/
theorem writeAll_eq (inputs : List String) (outputDir : String) (sources : Batch String) :
    pipeline.writeAll outputDir (inputs.zip sources.slots) =
      Batch.successes <$> pipeline.writeStage inputs outputDir sources := by
  obtain ⟨slots⟩ := sources
  simp only [writeStage, Batch.withInputs, Batch.tryMap, map_eq_pure_bind, bind_assoc, pure_bind]
  induction inputs generalizing slots with
  | nil => rfl
  | cons input inputs ih =>
    cases slots with
    | nil => rfl
    | cons slot slots =>
      rw [List.zip_cons_cons, List.zipWith_cons_cons, List.mapM_cons]
      cases slot with
      | none =>
        rw [writeAll, ih, Option.map_none, Batch.trySlot, pure_bind, bind_assoc]
        rfl
      | some source =>
        rw [writeAll, Option.map_some, Batch.trySlot, bind_assoc]
        congr 1
        funext written
        cases written with
        | none =>
          rw [ih, bind_assoc]
          rfl
        | some path =>
          dsimp only
          rw [ih, bind_assoc, bind_assoc]
          rfl

/-- Compiling is generating, writing as a stage, and starting the compiler on what was written. -/
theorem compile_parts (inputs : List String) (outputDir : String) :
    pipeline.compile inputs outputDir =
      pipeline.writeSources inputs outputDir >>= pipeline.compileSources outputDir := by
  simp only [compile, writeSources, writeAll_eq, map_eq_pure_bind, bind_assoc, pure_bind]
  rfl

end Pipeline

end StagedBuild
