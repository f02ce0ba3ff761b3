import StagedBuild.Diagnostic
import StagedBuild.Diagnostic.Underline

/-!
# Rendered diagnostics

A diagnostic as text: a header, with a range also the source line and the marker under it, then
the throw site, then the details. Without a location the header is `error: message`; a file comes
before it, and a range adds its line and first column.
-/

namespace StagedBuild.Diagnostic

/-- The line a range is about, or a placeholder if the file has no such line. -/
def sourceLine (file : SourceText) (range : SourceRange) : String :=
  (file.line? range.line.toNat).getD
    s!"<<Unable to get line {range.line} in file {file.path}>>"

/-- The lines before the throw site. -/
def heading (d : Diagnostic) : List String :=
  let header := s!"{d.severity.name}: {d.message}"
  match d.location with
  | none => [header]
  | some ⟨file, none⟩ => [s!"{file.path}: {header}"]
  | some ⟨file, some range⟩ =>
    let line := sourceLine file range
    [s!"{file.path}:{range.line}:{range.columnStart}: {header}", line, underline line range]

/-- The whole text: heading, throw site and details, joined by newlines. -/
def render (d : Diagnostic) : String :=
  "\n".intercalate (d.heading ++ [s!"Thrown by {d.thrownBy.display}", d.details])

end StagedBuild.Diagnostic
