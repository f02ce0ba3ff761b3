import StagedBuild.Report
import StagedBuild.Store

/-!
# The summary of a run

Every error, then every warning, each rendered as a diagnostic, then the totals. An empty store
has an empty summary.
-/

namespace StagedBuild.Store

/-- A heading with rendered diagnostics under it, or nothing if there are none. -/
def summarySection (name : String) (diagnostics : List Diagnostic) : Report :=
  if diagnostics.isEmpty then []
  else .heading name :: diagnostics.map fun d => .preformatted d.render

/-- The report on everything that was recorded. -/
def summary (store : Store) : Report :=
  if store.hasAny then
    summarySection "Errors" (store.errors.map Failure.toDiagnostic) ++
      summarySection "Warnings" store.warnings ++
      [.preformatted s!"Total: {store.errorCount} errors and {store.warningCount} warnings."]
  else []

end StagedBuild.Store
