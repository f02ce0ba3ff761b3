import StagedBuild.Store

/-!
# Options of a run

Whether the first failure ends a run, and whether progress is shown.
-/

namespace StagedBuild

/-- Switches of a run. -/
structure RunOptions where
  stopAtFirstError : Bool := false
  logProgress : Bool := true
  deriving DecidableEq, Repr, Inhabited

/-- The store that a run with these options starts from. -/
def RunOptions.store (options : RunOptions) : Store :=
  Store.empty options.stopAtFirstError

end StagedBuild
