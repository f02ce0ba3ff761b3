import StagedBuild.Text.Cut

/-!
# Source files and places in them

Lines and columns are counted from one, columns in characters. A line ends at a newline; one
carriage return before the end of a line does not belong to it.
-/

namespace StagedBuild

/-- A source file held in memory. -/
structure SourceText where
  path : String
  contents : String
  deriving DecidableEq, Repr

namespace SourceText

/-- A line without the carriage return that may end it. -/
def withoutReturn (line : List Char) : List Char :=
  (Text.dropEnding? ['\r'] line).getD line

/-- All lines in order. A final newline starts one more, empty line. -/
def lines (file : SourceText) : List String :=
  (Text.splitOn '\n' file.contents.toList).map fun line => String.ofList (withoutReturn line)

/-- The line with this number; there is no line zero. -/
def line? (file : SourceText) : Nat → Option String
  | 0 => none
  | index + 1 => file.lines[index]?

end SourceText

/-- A span of columns in one line. The end column is the first that no longer belongs to it. -/
structure SourceRange where
  line : UInt64
  columnStart : UInt64
  columnEnd : UInt64
  deriving DecidableEq, Repr

/-- The place a diagnostic is about: a file, or a range in it. -/
structure SourceLocation where
  file : SourceText
  range : Option SourceRange
  deriving DecidableEq, Repr

end StagedBuild
