import StagedBuild.Target
import StagedBuild.Text.Cut

/-!
# Paths of build artifacts

Where a generated source and the compiled archive go. Paths are plain text here: a folder ends at
the last slash, an extension starts at the last dot, and nothing else has a meaning, so `..` and
repeated slashes in an input do not show in the path of its source.
-/

namespace StagedBuild.ArtifactPath

/-- The text after the last slash. -/
def baseName (path : String) : String :=
  String.ofList (Text.afterLast (· == '/') path.toList)

/-- Replaces what follows the last dot, or adds an extension to a name without a dot. -/
def changeExtension (fileName extension : String) : String :=
  String.ofList (Text.beforeLast '.' fileName.toList ++ '.' :: extension.toList)

/-- The folder with a slash at its end; the empty folder becomes the root. -/
def folderWithSlash (dir : String) : String :=
  if dir.toList.getLast? = some '/' then dir else dir ++ "/"

/-- Where the source generated from `input` is written. -/
def source (input outputDir : String) (target : Target) : String :=
  folderWithSlash outputDir ++ changeExtension (baseName input) target.extension

/-- Where the sources are compiled to. -/
def archive (outputDir : String) (target : Target) : String :=
  folderWithSlash outputDir ++ target.archiveName

end StagedBuild.ArtifactPath
