import StagedBuild.Failure

/-!
# The diagnostic store

Errors and warnings of one run, and the policy on errors. While the store stops at the first
error, an error is handed back to whoever reports it; otherwise it is kept. Warnings are always
kept.
-/

namespace StagedBuild

/-- What was recorded so far, oldest first, and the policy for the next error. -/
structure Store where
  errors : List Failure := []
  warnings : List Diagnostic := []
  stopAtFirstError : Bool := false
  deriving DecidableEq, Repr, Inhabited

namespace Store

/-- An empty store with a policy. -/
def empty (stopAtFirstError : Bool) : Store :=
  { stopAtFirstError }

/-- Changes the policy for later errors. -/
def setStop (store : Store) (stop : Bool) : Store :=
  { store with stopAtFirstError := stop }

/-- Keeps an error, or hands it back when the store stops at the first error. -/
def recordError (store : Store) (failure : Failure) : Except Failure Unit × Store :=
  if store.stopAtFirstError then (.error failure, store)
  else (.ok (), { store with errors := store.errors ++ [failure] })

/-- Keeps a warning. -/
def recordWarning (store : Store) (warning : Diagnostic) : Store :=
  { store with warnings := store.warnings ++ [warning] }

/-- Forgets errors and warnings and keeps the policy. -/
def clear (store : Store) : Store :=
  { store with errors := [], warnings := [] }

/-- How many errors are kept. -/
def errorCount (store : Store) : Nat := store.errors.length

/-- How many warnings are kept. -/
def warningCount (store : Store) : Nat := store.warnings.length

/-- Something is kept. -/
def hasAny (store : Store) : Bool :=
  !store.errors.isEmpty || !store.warnings.isEmpty

end Store

end StagedBuild
