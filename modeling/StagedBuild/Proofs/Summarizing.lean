import StagedBuild.Proofs.Recording
import StagedBuild.Report.Histogram
import StagedBuild.Report.Summary

/-!
# What a summary shows, and where

The summary of a store has one line for each error and each warning that its history left, in their
order and under headings, and the totals at the end; nothing is shown of an empty store
(`summary_complete`). A terminal prints the lines that a buffered output keeps, each ended by a
newline.

* `Store.Shows`: what stands in which line, read off the recorded errors and warnings.
* `getElem?_titled_iff`, `getElem?_append_iff`: lines under a title, and lines behind others.
* `Report.terminal_eq_ended`, `Report.terminal_eq_contents`: the two outputs compared.
-/

namespace StagedBuild

namespace Report

/-- The text of some lines if each is ended by a newline. -/
def ended (lines : List String) : String :=
  String.join (lines.map (· ++ "\n"))

theorem Entry.printed_eq (entry : Entry) : entry.printed = entry.line ++ "\n" := by
  cases entry with
  | heading name => rw [printed, line, String.append_assoc]; rfl
  | listItem text => rfl
  | preformatted text => rfl
  | newline => rfl

theorem terminal_eq_ended (report : Report) : report.terminal = ended report.lines := by
  have printed : Entry.printed = (· ++ "\n") ∘ Entry.line := funext Entry.printed_eq
  rw [terminal, ended, lines, List.map_map, ← printed, String.join, List.foldl_map]

/-- Ending each line is joining the lines and ending the last. -/
theorem ended_eq_intercalate {lines : List String} (nonempty : lines ≠ []) :
    ended lines = "\n".intercalate lines ++ "\n" := by
  induction lines with
  | nil => exact absurd rfl nonempty
  | cons line rest ih =>
    rw [ended, List.map_cons, String.join_cons, ← ended]
    cases rest with
    | nil =>
      rw [ended, List.map_nil, String.join_nil, String.append_empty,
        String.intercalate_singleton]
    | cons next rest =>
      rw [ih (List.cons_ne_nil _ _), String.intercalate_cons_cons]
      simp only [String.append_assoc]

theorem terminal_eq_contents {report : Report} (nonempty : report ≠ []) :
    report.terminal = report.contents ++ "\n" := by
  have lines : report.lines ≠ [] := by simpa [lines] using nonempty
  rw [terminal_eq_ended, ended_eq_intercalate lines, contents]

end Report

namespace Store

/-- How many lines a title and so many rows under it take; a title without rows is left out. -/
def titledLength (rows : Nat) : Nat :=
  if rows = 0 then 0 else rows + 1

/-- A line of a summary, by its number from zero: what it shows of the errors and the warnings. -/
inductive Shows (errors : List Failure) (warnings : List Diagnostic) : Nat → String → Prop
  | errorsTitle (present : errors ≠ []) : Shows errors warnings 0 "Errors:"
  | error {index : Nat} {failure : Failure} (recorded : errors[index]? = some failure) :
      Shows errors warnings (index + 1) failure.toDiagnostic.render
  | warningsTitle (present : warnings ≠ []) :
      Shows errors warnings (titledLength errors.length) "Warnings:"
  | warning {index : Nat} {warning : Diagnostic} (recorded : warnings[index]? = some warning) :
      Shows errors warnings (titledLength errors.length + index + 1) warning.render
  | totals :
      Shows errors warnings (titledLength errors.length + titledLength warnings.length)
        s!"Total: {errors.length} errors and {warnings.length} warnings."

/-- Rows under a title, or nothing if there are none. -/
def titled (title : String) (rows : List String) : List String :=
  if rows = [] then [] else title :: rows

section

variable {title text : String} {rows : List String} {number : Nat}

theorem length_titled : (titled title rows).length = titledLength rows.length := by
  cases rows with
  | nil => rfl
  | cons row rows => rfl

theorem titledLength_length {α : Type} (rows : List α) :
    titledLength rows.length = rows.length + if rows = [] then 0 else 1 := by
  cases rows with
  | nil => rfl
  | cons row rows => simp [titledLength]

theorem getElem?_titled_iff :
    (titled title rows)[number]? = some text ↔
      (rows ≠ [] ∧ number = 0 ∧ title = text) ∨
        ∃ index, rows[index]? = some text ∧ number = index + 1 := by
  by_cases empty : rows = []
  · simp [titled, empty]
  · rw [titled, if_neg empty]
    cases number with
    | zero => simp [empty]
    | succ number => simp

/-- A line of some lines behind others is one of these, or one of those by a smaller number. -/
theorem getElem?_append_iff {front back : List String} :
    (front ++ back)[number]? = some text ↔
      front[number]? = some text ∨
        ∃ index, back[index]? = some text ∧ number = front.length + index := by
  by_cases inside : number < front.length
  · rw [List.getElem?_append_left inside]
    refine ⟨.inl, fun either => either.resolve_right ?_⟩
    rintro ⟨index, -, behind⟩
    omega
  · have outside : front[number]? = none := List.getElem?_eq_none (by omega)
    rw [List.getElem?_append_right (by omega), outside]
    constructor
    · exact fun found => .inr ⟨number - front.length, found, by omega⟩
    · rintro (nothing | ⟨index, found, rfl⟩)
      · exact absurd nothing (by simp)
      · rwa [Nat.add_sub_cancel_left]

end

theorem lines_summarySection (name : String) (diagnostics : List Diagnostic) :
    (summarySection name diagnostics).lines =
      titled (name ++ ":") (diagnostics.map Diagnostic.render) := by
  cases diagnostics with
  | nil => rfl
  | cons first rest => simp [summarySection, titled, Report.lines, Report.Entry.line]

theorem summary_of_empty {store : Store} (errors : store.errors = [])
    (warnings : store.warnings = []) : store.summary = [] := by
  rw [summary, hasAny, errors, warnings]
  rfl

theorem lines_summary {store : Store} (any : store.errors ≠ [] ∨ store.warnings ≠ []) :
    store.summary.lines =
      titled "Errors:" (store.errors.map fun failure => failure.toDiagnostic.render) ++
        titled "Warnings:" (store.warnings.map Diagnostic.render) ++
        [s!"Total: {store.errors.length} errors and {store.warnings.length} warnings."] := by
  have hasAny : store.hasAny = true := by simpa [hasAny] using any
  have errors := lines_summarySection "Errors" (store.errors.map Failure.toDiagnostic)
  have warnings := lines_summarySection "Warnings" store.warnings
  rw [List.map_map] at errors
  rw [summary, if_pos hasAny, Report.lines, List.map_append, List.map_append, ← Report.lines,
    ← Report.lines, errors, warnings]
  rfl

theorem length_lines_summary {store : Store} (any : store.errors ≠ [] ∨ store.warnings ≠ []) :
    store.summary.lines.length =
      titledLength store.errors.length + titledLength store.warnings.length + 1 := by
  rw [lines_summary any, List.length_append, List.length_append, length_titled, length_titled,
    List.length_map, List.length_map, List.length_singleton]

/-- Each line of a summary shows one thing, and everything recorded is shown in one line. -/
theorem getElem?_lines_summary_iff {store : Store}
    (any : store.errors ≠ [] ∨ store.warnings ≠ []) {number : Nat} {text : String} :
    store.summary.lines[number]? = some text ↔ Shows store.errors store.warnings number text := by
  rw [lines_summary any, getElem?_append_iff, getElem?_append_iff, List.length_append,
    length_titled, length_titled, List.length_map, List.length_map]
  simp only [getElem?_titled_iff, List.getElem?_map, Option.map_eq_some_iff, ne_eq,
    List.map_eq_nil_iff]
  constructor
  · rintro (((⟨present, rfl, rfl⟩ | ⟨index, ⟨failure, recorded, rfl⟩, rfl⟩) |
      ⟨_, ⟨present, rfl, rfl⟩ | ⟨index, ⟨warning, recorded, rfl⟩, rfl⟩, rfl⟩) | ⟨index, last, rfl⟩)
    · exact .errorsTitle present
    · exact .error recorded
    · exact .warningsTitle present
    · exact .warning recorded
    · obtain ⟨rfl, rfl⟩ : index = 0 ∧ _ = text := by simpa [List.getElem?_cons] using last
      exact .totals
  · intro shows
    cases shows with
    | errorsTitle present => exact .inl (.inl (.inl ⟨present, rfl, rfl⟩))
    | error recorded => exact .inl (.inl (.inr ⟨_, ⟨_, recorded, rfl⟩, rfl⟩))
    | warningsTitle present => exact .inl (.inr ⟨0, .inl ⟨present, rfl, rfl⟩, rfl⟩)
    | warning recorded => exact .inl (.inr ⟨_, .inr ⟨_, ⟨_, recorded, rfl⟩, rfl⟩, rfl⟩)
    | totals => exact .inr ⟨0, rfl, rfl⟩

/-- Of what a history left the summary shows everything once: nothing if there is nothing, and else
a line for each error and each warning, one more for each of the two titles that is needed, and the
totals at the end. Line by line it is what `Shows` says. Whatever the entries of a report are, a
terminal prints the lines that a buffered output keeps, each ended by a newline: that is these lines
joined and a newline behind them, or nothing if there is no entry. -/
theorem summary_complete (stop : Bool) (events : List Event) :
    let store := (Store.empty stop).replay events
    let errors := keptErrors stop events
    let warnings := keptWarnings events
    let lines := store.summary.lines
    (errors.length + warnings.length = 0 → store.summary = []) ∧
    (errors.length + warnings.length ≠ 0 →
      lines.length = errors.length + warnings.length + 1 +
        (if errors = [] then 0 else 1) + (if warnings = [] then 0 else 1) ∧
      (∀ number text, lines[number]? = some text ↔ Shows errors warnings number text) ∧
      lines.getLast? =
        some s!"Total: {errors.length} errors and {warnings.length} warnings.") ∧
    ∀ report : Report,
      report.terminal = String.join (report.lines.map (· ++ "\n")) ∧
      (report ≠ [] → report.terminal = report.contents ++ "\n") ∧
      (report = [] → report.terminal = "") := by
  obtain ⟨-, errors, warnings⟩ := Remembers.replay stop events
  dsimp only
  rw [← errors, ← warnings]
  generalize (Store.empty stop).replay events = store
  refine ⟨fun nothing => ?_, fun something => ?_, fun report => ⟨?_, ?_, ?_⟩⟩
  · obtain ⟨noError, noWarning⟩ := Nat.add_eq_zero_iff.mp nothing
    exact summary_of_empty (List.length_eq_zero_iff.mp noError)
      (List.length_eq_zero_iff.mp noWarning)
  · have any : store.errors ≠ [] ∨ store.warnings ≠ [] := by
      rw [ne_eq, Nat.add_eq_zero_iff, List.length_eq_zero_iff, List.length_eq_zero_iff] at something
      exact not_and_or.mp something
    refine ⟨?_, fun number text => getElem?_lines_summary_iff any, ?_⟩
    · rw [length_lines_summary any, titledLength_length, titledLength_length]
      omega
    · rw [lines_summary any, List.getLast?_append, List.getLast?_singleton]
      rfl
  · exact Report.terminal_eq_ended report
  · exact Report.terminal_eq_contents
  · rintro rfl
    rfl

end Store

end StagedBuild
