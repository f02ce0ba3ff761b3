import StagedBuild.Text.Blank

/-!
# Progress lines

Where the one line that announces each stage goes. A named log belongs to the caller, who finds
its lines in the history of calls.
-/

namespace StagedBuild

/-- A destination of progress lines. -/
inductive Log where
  /-- Printed on standard output. -/
  | stdout
  /-- Dropped. -/
  | silent
  /-- Sent to the event log at level INFO. -/
  | tracing
  /-- Handed to a log of the caller. -/
  | named (name : String)
  deriving DecidableEq, Repr

namespace Log

/-- The log for progress that is shown or not. -/
def ofProgress (enabled : Bool) : Log :=
  if enabled then .stdout else .silent

/-- What a line prints on standard output. -/
def printed : Log → String → String
  | .stdout, line => line ++ "\n"
  | .silent, _ | .tracing, _ | .named _, _ => ""

/-- The event that a line becomes; events start at the first character that is not blank. -/
def traced? : Log → String → Option String
  | .tracing, line => some (Text.dropBlanks line)
  | .stdout, _ | .silent, _ | .named _, _ => none

end Log

end StagedBuild
