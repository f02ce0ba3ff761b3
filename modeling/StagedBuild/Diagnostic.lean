import StagedBuild.Source
import StagedBuild.ThrowSite

/-!
# Diagnostics

What went wrong, where in the source it happened, and which part of the build tool reported it.
-/

namespace StagedBuild

/-- How serious a diagnostic is. -/
inductive Severity where
  | error
  | warning
  deriving DecidableEq, Repr

namespace Severity

/-- The word that starts a rendered diagnostic. -/
def name : Severity → String
  | .error => "error"
  | .warning => "warning"

/-- Errors stop the input they are about; warnings do not. -/
def isError : Severity → Bool
  | .error => true
  | .warning => false

end Severity

/-- A problem found while sources are built. -/
structure Diagnostic where
  severity : Severity
  message : String
  thrownBy : ThrowSite
  details : String := ""
  location : Option SourceLocation := none
  deriving DecidableEq, Repr

namespace Diagnostic

/-- An error without details and location. -/
def error (message : String) (thrownBy : ThrowSite) : Diagnostic :=
  { severity := .error, message, thrownBy }

/-- A warning without details and location. -/
def warning (message : String) (thrownBy : ThrowSite) : Diagnostic :=
  { severity := .warning, message, thrownBy }

end Diagnostic

end StagedBuild
