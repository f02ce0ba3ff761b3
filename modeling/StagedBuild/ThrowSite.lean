import StagedBuild.Text.Cut

/-!
# Throw sites

The place in the build tool's own code that reported a diagnostic. The function is taken from the
path of a marker item named `here` inside it, with the closures around the marker stripped.
-/

namespace StagedBuild

/-- The file, line and function that reported a diagnostic. -/
structure ThrowSite where
  file : String
  line : UInt32
  function : String
  deriving DecidableEq, Repr, Inhabited

namespace ThrowSite

/-- The file name without folders and extensions. Both kinds of slash separate folders, and the
name is cut at its first dot. -/
def fileStem (site : ThrowSite) : String :=
  String.ofList
    (Text.beforeFirst '.' (Text.afterLast (fun c => c == '/' || c == '\\') site.file.toList))

/-- The site as it is shown in rendered diagnostics. -/
def display (site : ThrowSite) : String :=
  s!"{site.fileStem}:{site.line} - {site.function}"

/-- The text before the first double colon, or all of it. -/
def beforeDoubleColon : List Char → List Char
  | ':' :: ':' :: _ => []
  | c :: rest => c :: beforeDoubleColon rest
  | [] => []

/-- The last segment of a type path. A run of three colons is cut after its last two. -/
def lastSegment (path : List Char) : List Char :=
  (beforeDoubleColon path.reverse).reverse

/-- The function that holds the marker with this type path. -/
def enclosingFunction (typePath : String) : String :=
  let path := typePath.toList
  let outer := (Text.dropEnding? "::here".toList path).getD path
  String.ofList (lastSegment (Text.dropEndings "::\x7b\x7bclosure\x7d\x7d".toList outer))

/-- The site of a marker with this type path. -/
def ofTypePath (file : String) (line : UInt32) (typePath : String) : ThrowSite :=
  ⟨file, line, enclosingFunction typePath⟩

end ThrowSite

end StagedBuild
