import Mathlib.Logic.Function.Basic
import StagedBuild.ArtifactPath

/-!
# Names of generated sources

A source is named after the stem of its input: the name of the input's file up to the last dot. So
two sources are written to one path exactly if their inputs have one stem (`source_eq_iff`),
whatever folders the inputs are in.
-/

namespace StagedBuild.ArtifactPath

/-- The name of a file without its folder and up to its last dot. -/
def stem (path : String) : String :=
  String.ofList (Text.beforeLast '.' (baseName path).toList)

/-- The path of the source with this stem. -/
def named (outputDir : String) (target : Target) (stem : String) : String :=
  folderWithSlash outputDir ++ (stem ++ ("." ++ target.extension))

theorem source_eq_named (input outputDir : String) (target : Target) :
    source input outputDir target = named outputDir target (stem input) := by
  have dot : (".".toList : List Char) = ['.'] := by decide
  rw [source, named, changeExtension, stem, ← String.toList_inj]
  simp only [String.toList_append, String.toList_ofList, dot, List.singleton_append]

theorem named_injective (outputDir : String) (target : Target) :
    Function.Injective (named outputDir target) := by
  intro one two same
  have names := (String.append_right_inj _).mp same
  exact (String.append_left_inj _).mp names

/-- Sources go to one path exactly if their inputs have one stem. -/
theorem source_eq_iff {input other outputDir : String} {target : Target} :
    source input outputDir target = source other outputDir target ↔ stem input = stem other := by
  rw [source_eq_named, source_eq_named]
  exact (named_injective outputDir target).eq_iff

end StagedBuild.ArtifactPath
