import StagedBuild.Proofs.ArtifactName
import StagedBuild.Proofs.Cutting
import StagedBuild.Proofs.PathNames

/-!
# Where generated sources are placed

The path of a generated source is the output directory with a slash behind it, and then a name made
of the stem of the input. The stem is told by the input's last slash and last dot (`IsStem`), and
nothing else of the input matters, so neither two dots nor repeated slashes in it lead anywhere else.
Sources of different stems have different paths, none has that of the archive, and a source placed
once more stays where it is (`source_placed`).

The directory with a slash behind it is the directory itself, except for the empty text, which
becomes the root. So a source lies directly inside the output directory, or at the root if that is
the empty text.

* `stem_eq_iff`: the stem that sources are named after is the one that the input's last slash and
  last dot tell.
* `Places`: all that is said of the sources in one directory.
-/

namespace StagedBuild

namespace ArtifactPath

/-- The stem of an input: of what is after its last slash, or of all of it, the part before the
last dot, or all of that. -/
def IsStem (input stem : String) : Prop :=
  ∃ name, '/' ∉ name ∧ (input.toList = name ∨ ∃ folder, input.toList = folder ++ '/' :: name) ∧
    (name = stem.toList ∧ '.' ∉ name ∨ ∃ ending, name = stem.toList ++ '.' :: ending ∧ '.' ∉ ending)

theorem toList_stem (input : String) :
    (ArtifactPath.stem input).toList =
      Text.beforeLast '.' (Text.afterLast (· == '/') input.toList) := by
  rw [ArtifactPath.stem, baseName, String.toList_ofList, String.toList_ofList]

/-- Every input has one stem, and it is the one that its source is named after. -/
theorem stem_eq_iff {input stem : String} : ArtifactPath.stem input = stem ↔ IsStem input stem := by
  rw [← String.toList_inj, toList_stem, Text.beforeLast_eq_iff]
  constructor
  · intro cut
    obtain ⟨plain, place⟩ := Text.afterLast_eq_iff.mp
      (Eq.refl (Text.afterLast (· == '/') input.toList))
    exact ⟨_, plain, place, cut⟩
  · rintro ⟨name, plain, place, cut⟩
    rw [Text.afterLast_eq_iff.mpr ⟨plain, place⟩]
    exact cut

theorem IsStem.noSlash {input stem : String} (isStem : IsStem input stem) :
    '/' ∉ stem.toList := by
  obtain ⟨name, plain, -, cut⟩ := isStem
  obtain ⟨rfl, -⟩ | ⟨ending, rfl, -⟩ := cut
  · exact plain
  · exact fun member => plain (List.mem_append_left _ member)

theorem noSlash_stem (input : String) : '/' ∉ (ArtifactPath.stem input).toList :=
  (stem_eq_iff.mp rfl).noSlash

/-- A stem with an extension is cut before it. -/
theorem isStem_of_place {input stem ending : String} {folder : List Char}
    (noSlash : '/' ∉ stem.toList) (plain : '/' ∉ ending.toList ∧ '.' ∉ ending.toList)
    (place : input.toList = folder ++ '/' :: (stem.toList ++ '.' :: ending.toList)) :
    IsStem input stem := by
  refine ⟨_, ?_, .inr ⟨folder, place⟩, .inr ⟨ending.toList, rfl, plain.2⟩⟩
  simp [noSlash, plain.1]

/-- The name of a source is longer than any name that has a meaning of its own. -/
theorem short_lt_length_name (stem : String) : 2 < (stem ++ ".kt").length := by
  have ending : ".kt".length = 3 := by decide
  rw [String.length_append, ending]
  omega

theorem name_ne_of_short {short : String} (length : short.length ≤ 2) (stem : String) :
    stem ++ ".kt" ≠ short := by
  rintro rfl
  have := short_lt_length_name stem
  omega

theorem isName_stem (input : String) : FilePath.IsName (ArtifactPath.stem input ++ ".kt") where
  nonempty := name_ne_of_short (by decide) _
  notDot := name_ne_of_short (by decide) _
  noSlash := by
    have plain : '/' ∉ ".kt".toList := by decide
    rw [String.toList_append, List.mem_append, not_or]
    exact ⟨noSlash_stem input, plain⟩

/-- How the sources of inputs are placed in an output directory. -/
structure Places (outputDir : String) (target : Target) : Prop where
  /-- Every input has one stem. -/
  stem : ∀ input, ∃! stem, IsStem input stem
  /-- A source is the directory's text with a slash behind it, and a name made of its input's stem
  alone. -/
  named : ∀ input stem, IsStem input stem →
    source input outputDir target = folderWithSlash outputDir ++ (stem ++ ".kt") ∧
      '/' ∉ (stem ++ ".kt").toList ∧ stem ++ ".kt" ≠ "." ∧ stem ++ ".kt" ≠ ".."
  /-- As a path it leads through the names of that text and then to its own. -/
  inside : ∀ input stem, IsStem input stem →
    FilePath.ofText (source input outputDir target) =
      ⟨(FilePath.ofText (folderWithSlash outputDir)).absolute,
        (FilePath.ofText (folderWithSlash outputDir)).names ++ [stem ++ ".kt"]⟩
  /-- So it lies directly inside the output directory, unless that is the empty text. -/
  within : outputDir ≠ "" → ∀ input stem, IsStem input stem →
    FilePath.ofText (source input outputDir target) =
      ⟨(FilePath.ofText outputDir).absolute,
        (FilePath.ofText outputDir).names ++ [stem ++ ".kt"]⟩
  /-- Behind the empty text it lies at the root. -/
  rooted : outputDir = "" → ∀ input stem, IsStem input stem →
    FilePath.ofText (source input outputDir target) = ⟨true, [stem ++ ".kt"]⟩
  /-- Sources have one path exactly if their inputs have one stem. -/
  shared : ∀ input other stem stem', IsStem input stem → IsStem other stem' →
    (source input outputDir target = source other outputDir target ↔ stem = stem')
  /-- No source lies where the archive does. -/
  apart : ∀ input, source input outputDir target ≠ archive outputDir target
  /-- A slash behind the output directory changes nothing. -/
  slash : ¬ FilePath.endsWithSlash outputDir →
    archive (outputDir ++ "/") target = archive outputDir target ∧
      ∀ input, source input (outputDir ++ "/") target = source input outputDir target
  /-- A source that is an input is placed where it is. -/
  fixed : ∀ input,
    source (source input outputDir target) outputDir target = source input outputDir target

theorem source_eq_stem (input outputDir : String) (target : Target) :
    source input outputDir target =
      folderWithSlash outputDir ++ (ArtifactPath.stem input ++ ".kt") := by
  rw [source_eq_named, named]
  cases target
  rfl

theorem stem_source (input outputDir : String) (target : Target) :
    ArtifactPath.stem (source input outputDir target) = ArtifactPath.stem input := by
  have ends := folderWithSlash_ends outputDir
  have last : (folderWithSlash outputDir).toList.getLast? = some '/' := by
    simpa [FilePath.endsWithSlash] using ends
  obtain ⟨front, cut⟩ := List.getLast?_eq_some_iff.mp last
  have plain : '/' ∉ "kt".toList ∧ '.' ∉ "kt".toList := by decide
  have ending : ".kt".toList = '.' :: "kt".toList := rfl
  have place : (source input outputDir target).toList =
      front ++ '/' :: ((ArtifactPath.stem input).toList ++ '.' :: "kt".toList) := by
    rw [source_eq_stem, String.toList_append, String.toList_append, cut, ending,
      List.append_assoc, List.singleton_append]
  exact stem_eq_iff.mpr (isStem_of_place (noSlash_stem input) plain place)

/-- A source is a name behind the directory that the text with a slash denotes. -/
theorem ofText_source (input outputDir : String) (target : Target) :
    FilePath.ofText (source input outputDir target) =
      ⟨(FilePath.ofText (folderWithSlash outputDir)).absolute,
        (FilePath.ofText (folderWithSlash outputDir)).names ++
          [ArtifactPath.stem input ++ ".kt"]⟩ := by
  rw [source_eq_stem]
  exact FilePath.ofText_append_name (folderWithSlash_ends outputDir) (isName_stem input)

theorem source_ne_archive (input outputDir : String) (target : Target) :
    source input outputDir target ≠ archive outputDir target := by
  intro same
  rw [source_eq_stem, archive] at same
  have names := (String.append_right_inj _).mp same
  have archive : target.archiveName.toList.getLast? = some 'r' := by
    cases target
    decide
  have source : (ArtifactPath.stem input ++ ".kt").toList.getLast? = some 't' := by
    have ending : ".kt".toList = ['.', 'k', 't'] := rfl
    rw [String.toList_append, ending]
    simp
  rw [names, archive] at source
  exact absurd source (by decide)

/-- Every source is named behind the output directory with a slash, by its input's stem with an
extension, so that inputs share a path exactly if they share a stem. It lies directly inside the
output directory, or at the root if that is the empty text. It is never the path of the archive, a
slash behind the directory changes neither, and placing a source again gives its path. -/
theorem source_placed (outputDir : String) (target : Target) : Places outputDir target where
  stem input := ⟨_, stem_eq_iff.mp rfl, fun other isStem => (stem_eq_iff.mpr isStem).symm⟩
  named input stem isStem := by
    obtain rfl := stem_eq_iff.mpr isStem
    have isName := isName_stem input
    exact ⟨source_eq_stem input outputDir target, isName.noSlash, isName.notDot,
      name_ne_of_short (by decide) _⟩
  inside input stem isStem := by
    obtain rfl := stem_eq_iff.mpr isStem
    exact ofText_source input outputDir target
  within nonempty input stem isStem := by
    obtain rfl := stem_eq_iff.mpr isStem
    rw [ofText_source, ofText_folderWithSlash nonempty]
  rooted empty input stem isStem := by
    obtain rfl := stem_eq_iff.mpr isStem
    have root : FilePath.ofText (folderWithSlash "") = ⟨true, []⟩ := by decide
    rw [ofText_source, empty, root]
    rfl
  shared input other stem stem' first second := by
    rw [source_eq_iff, stem_eq_iff.mpr first, stem_eq_iff.mpr second]
  apart input := source_ne_archive input outputDir target
  slash noSlash := by
    have same := folderWithSlash_append noSlash
    refine ⟨?_, fun input => ?_⟩
    · rw [archive, archive, same]
    · rw [source, source, same]
  fixed input := source_eq_iff.mpr (stem_source input outputDir target)

/-- Two dots and repeated slashes of an input do not show in the path of its source. -/
example : source "../..//.hidden.tar.gz" "out" .kotlin = "out/.hidden.tar.kt" := by decide

end ArtifactPath

end StagedBuild
