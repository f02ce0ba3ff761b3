import StagedBuild.Report
import StagedBuild.Store

/-!
# Failure histograms

How often each stage failed on each kind of node, the most frequent kind first. Kinds of equal
frequency keep the order in which they were first recorded. One pass over the failures counts them
in a map of maps, which has the stages and the kinds in the order they were met; after it the stages
are put into the order in which they run.
-/

namespace StagedBuild

namespace Histogram

/-- Changes what a map has for a key; a key that is new goes to the end and starts with `fresh`. -/
def upsert {κ ν : Type} [DecidableEq κ] (key : κ) (fresh : ν) (change : ν → ν) :
    List (κ × ν) → List (κ × ν)
  | [] => [(key, change fresh)]
  | (other, content) :: rest =>
    if other = key then (other, change content) :: rest
    else (other, content) :: upsert key fresh change rest

/-- How often each kind of node was met, in the order the kinds were first met. -/
abbrev Counts := List (String × Nat)

/-- The counts of each stage, in the order the stages were first met. -/
abbrev Groups := List (FailureStage × Counts)

/-- Counts one more occurrence of a kind. -/
def bump (kind : String) (counts : Counts) : Counts :=
  upsert kind 0 (· + 1) counts

/-- Counts a failure under its stage and kind, if it has them. -/
def Groups.add (groups : Groups) (failure : Failure) : Groups :=
  match failure.classification with
  | some (stage, kind) => upsert stage [] (bump kind) groups
  | none => groups

/-- Counts all failures, one after another. -/
def Groups.ofErrors (errors : List Failure) : Groups :=
  errors.foldl add []

/-- The groups in the order the stages run. -/
def Groups.inOrder (groups : Groups) : Groups :=
  groups.mergeSort fun a b => (compare a.1 b.1).isLE

/-- The counts from the largest to the smallest; equal counts keep their order. -/
def byFrequency (counts : Counts) : Counts :=
  counts.mergeSort fun a b => decide (b.2 ≤ a.2)

/-- The failures of one stage by kind of node. -/
structure Section where
  stage : FailureStage
  counts : Counts
  deriving DecidableEq, Repr

end Histogram

/-- How many errors and warnings there are, and the failures of each stage that has some. -/
structure Histogram where
  errorCount : Nat
  warningCount : Nat
  sections : List Histogram.Section
  deriving DecidableEq, Repr

namespace Histogram

/-- The histogram of a store: one section for each group. -/
def ofStore (store : Store) : Histogram where
  errorCount := store.errorCount
  warningCount := store.warningCount
  sections := (Groups.ofErrors store.errors).inOrder.map fun (stage, counts) =>
    ⟨stage, byFrequency counts⟩

/-- The section of this stage. -/
def section? (histogram : Histogram) (stage : FailureStage) : Option Section :=
  histogram.sections.find? (·.stage = stage)

/-- The lines of one section under its heading. -/
def Section.report (part : Section) : Report :=
  .heading part.stage.heading ::
    part.counts.map fun (kind, count) => .listItem s!"{count} {kind}s"

/-- The totals, then every section. -/
def report (histogram : Histogram) : Report :=
  .preformatted s!"Errors: {histogram.errorCount}. Warnings: {histogram.warningCount}." ::
    histogram.sections.flatMap Section.report

end Histogram

end StagedBuild
