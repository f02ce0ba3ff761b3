import StagedBuild.Diagnostic.Render
import StagedBuild.Proofs.Cutting
import StagedBuild.Proofs.Underlining

/-!
# The lines of a rendered diagnostic

A rendered diagnostic has one line for its header, with a range one for the source and one for the
marker, then one for the throw site, and all that follows are the lines of the details. This holds
while message, throw site and path are on one line each, whatever the file and the details are
(`render_lines`).

* `linesOf`: the lines of a text, all that stands between newlines.
* `IsLine`: which line of a file has a number. `line?_eq_some_iff` says it of the lookup.
* `linesOf_join`: joined rows are split where they were joined.
* `Shown`: what is shown of the file. The marker is that of the shown line, also if this is the
  placeholder.
-/

namespace StagedBuild

/-- The lines of a text. -/
def linesOf (text : String) : List String :=
  (text.toList.splitOn '\n').map String.ofList

/-- The text is on one line. -/
def OneLine (text : String) : Prop :=
  '\n' ∉ text.toList

instance (text : String) : Decidable (OneLine text) :=
  inferInstanceAs (Decidable (_ ∉ _))

namespace OneLine

theorem append_iff {before after : String} :
    OneLine (before ++ after) ↔ OneLine before ∧ OneLine after := by
  simp only [OneLine, String.toList_append, List.mem_append, not_or]

theorem toString_iff {text : String} : OneLine (toString text) ↔ OneLine text := Iff.rfl

theorem of_digits (number : Nat) : OneLine (toString number) := by
  intro newline
  have written : '\n' ∈ Nat.toDigits 10 number := by
    rwa [show toString number = Nat.repr number from rfl, Nat.toList_repr] at newline
  have digit : ('\n').isDigit = true :=
    Nat.isDigit_of_mem_toDigits (by decide) (by decide) written
  exact absurd digit (by decide)

theorem of_subset {text whole : String} (single : OneLine whole)
    (part : ∀ c ∈ text.toList, c ∈ whole.toList) : OneLine text :=
  fun newline => single (part _ newline)

end OneLine

/-- Joined rows are split where they were joined; the last one may have more lines. -/
theorem linesOf_join {rows : List String} (single : ∀ row ∈ rows, OneLine row) (last : String) :
    linesOf ("\n".intercalate (rows ++ [last])) = rows ++ linesOf last := by
  induction rows with
  | nil => rfl
  | cons row rows ih =>
    obtain ⟨first, rest⟩ := List.forall_mem_cons.mp single
    have joined : ("\n".intercalate (row :: (rows ++ [last]))).toList =
        row.toList ++ '\n' :: ("\n".intercalate (rows ++ [last])).toList := by
      rw [String.intercalate_cons_of_ne_nil (by simp), String.toList_append, String.toList_append,
        List.append_assoc]
      rfl
    rw [List.cons_append, linesOf, joined, List.splitOn_append_cons_self_of_not_mem first,
      List.map_cons, String.ofList_toList, List.cons_append, ← ih rest]
    rfl

theorem oneLine_of_mem_linesOf {text line : String} (member : line ∈ linesOf text) :
    OneLine line := by
  obtain ⟨piece, listed, rfl⟩ := List.mem_map.mp member
  rw [OneLine, String.toList_ofList]
  exact Text.not_mem_of_mem_splitOn listed

namespace SourceText

/-- The line of a file with this number: lines are counted from one, and a carriage return at the
end of a line does not belong to it. -/
def IsLine (file : SourceText) (number : Nat) (line : String) : Prop :=
  ∃ index raw, number = index + 1 ∧ (linesOf file.contents)[index]? = some raw ∧
    (raw = line ++ "\r" ∨ raw = line ∧ ¬ ['\r'] <:+ line.toList)

theorem withoutReturn_eq_iff {raw line : List Char} :
    withoutReturn raw = line ↔ raw = line ++ ['\r'] ∨ raw = line ∧ ¬ ['\r'] <:+ line := by
  rw [withoutReturn]
  cases ending : Text.dropEnding? ['\r'] raw with
  | some rest =>
    rw [Text.dropEnding?_eq_some_iff] at ending
    subst ending
    rw [Option.getD_some, List.append_left_inj, or_iff_left]
    rintro ⟨rfl, noReturn⟩
    exact noReturn ⟨rest, rfl⟩
  | none =>
    have noReturn : ∀ rest, raw ≠ rest ++ ['\r'] := fun rest same => by
      rw [← Text.dropEnding?_eq_some_iff, ending] at same
      cases same
    rw [Option.getD_none, or_iff_right (noReturn line), and_iff_left_of_imp]
    rintro rfl ⟨rest, same⟩
    exact noReturn rest same.symm

theorem line?_eq_some_iff {file : SourceText} {number : Nat} {line : String} :
    file.line? number = some line ↔ file.IsLine number line := by
  cases number with
  | zero => simp [line?, IsLine]
  | succ index =>
    have plain : ∀ raw : List Char, String.ofList (withoutReturn raw) = line ↔
        String.ofList raw = line ++ "\r" ∨
          String.ofList raw = line ∧ ¬ ['\r'] <:+ line.toList := fun raw => by
      simp only [← String.toList_inj, String.toList_ofList, String.toList_append]
      exact withoutReturn_eq_iff
    simp only [line?, lines, IsLine, linesOf, Text.splitOn_eq, List.getElem?_map,
      Option.map_eq_some_iff, plain]
    constructor
    · rintro ⟨raw, found, ended⟩
      exact ⟨index, _, rfl, ⟨raw, found, rfl⟩, ended⟩
    · rintro ⟨own, _, same, ⟨raw, found, rfl⟩, ended⟩
      cases same
      exact ⟨raw, found, ended⟩

theorem IsLine.oneLine {file : SourceText} {number : Nat} {line : String}
    (isLine : file.IsLine number line) : OneLine line := by
  obtain ⟨index, raw, -, found, ended⟩ := isLine
  have single : OneLine raw := oneLine_of_mem_linesOf (List.mem_of_getElem? found)
  obtain rfl | ⟨rfl, -⟩ := ended
  · exact single.of_subset fun c member => by
      rw [String.toList_append]
      exact List.mem_append_left _ member
  · exact single

end SourceText

theorem ThrowSite.oneLine_display {site : ThrowSite} (file : OneLine site.file)
    (function : OneLine site.function) : OneLine site.display := by
  have stem : OneLine site.fileStem := by
    refine file.of_subset fun c member => ?_
    rw [fileStem, String.toList_ofList] at member
    exact Text.mem_of_mem_afterLast (Text.mem_of_mem_beforeFirst member)
  rw [display]
  simp only [OneLine.append_iff, OneLine.toString_iff]
  refine ⟨⟨⟨⟨stem, ?_⟩, .of_digits _⟩, ?_⟩, function⟩ <;> decide

theorem oneLine_underline (line : String) (range : SourceRange) :
    OneLine (underline line range) := by
  rw [OneLine, underline, String.toList_ofList, Underline.marker]
  split
  · exact List.not_mem_nil
  · rw [List.mem_append, List.mem_map, List.mem_cons, List.mem_replicate]
    rintro (⟨c, -, blank⟩ | caret | ⟨-, tilde⟩)
    · revert blank
      unfold Underline.blankUnder
      split <;> decide
    · exact absurd caret (by decide)
    · exact absurd tilde (by decide)

namespace Diagnostic

open Underline (Fits Shape)

/-- What is shown of a file: a line of it, or a placeholder if it has no such line, and a marker
under what is shown. -/
structure Shown (file : SourceText) (range : SourceRange) (source marker : String) : Prop where
  line : ∀ text, file.IsLine range.line.toNat text → source = text
  placeholder : (∀ text, ¬ file.IsLine range.line.toNat text) →
    source = s!"<<Unable to get line {range.line} in file {file.path}>>"
  unmarked : ¬ Fits range source.length → marker = ""
  marked : Fits range source.length → Shape source.toList range marker.toList
  under : marker ≠ "" → marker.length < source.length ∧
    marker.toList[range.columnStart.toNat - 1]? = some '^' ∧ marker.toList.count '^' = 1

/-- Message, throw site and path are on one line each. -/
structure Unbroken (d : Diagnostic) : Prop where
  message : OneLine d.message
  file : OneLine d.thrownBy.file
  function : OneLine d.thrownBy.function
  path : ∀ location, d.location = some location → OneLine location.file.path

theorem oneLine_name (severity : Severity) : OneLine severity.name := by
  cases severity <;> decide

/-- The heading of a diagnostic has one line in each row, so the throw site and the details follow
right after it. -/
theorem linesOf_render {d : Diagnostic} (single : ∀ row ∈ d.heading, OneLine row)
    (thrown : OneLine s!"Thrown by {d.thrownBy.display}") :
    linesOf d.render = d.heading ++ s!"Thrown by {d.thrownBy.display}" :: linesOf d.details := by
  have rows : ∀ row ∈ d.heading ++ [s!"Thrown by {d.thrownBy.display}"], OneLine row := by
    intro row member
    rw [List.mem_append, List.mem_singleton] at member
    obtain inHeading | rfl := member
    · exact single row inHeading
    · exact thrown
  have joined := linesOf_join rows d.details
  rw [List.append_assoc, List.append_assoc] at joined
  exact joined

theorem oneLine_sourceLine {file : SourceText} (range : SourceRange) (path : OneLine file.path) :
    OneLine (sourceLine file range) := by
  rw [sourceLine]
  cases found : file.line? range.line.toNat with
  | some line => exact (SourceText.line?_eq_some_iff.mp found).oneLine
  | none =>
    simp only [Option.getD_none, OneLine.append_iff, OneLine.toString_iff]
    refine ⟨⟨⟨⟨?_, .of_digits _⟩, ?_⟩, path⟩, ?_⟩ <;> decide

theorem shown_sourceLine (file : SourceText) (range : SourceRange) :
    Shown file range (sourceLine file range) (underline (sourceLine file range) range) where
  line text isLine := by
    rw [sourceLine, SourceText.line?_eq_some_iff.mpr isLine]
    rfl
  placeholder missing := by
    have absent : file.line? range.line.toNat = none :=
      Option.eq_none_iff_forall_ne_some.mpr fun text found =>
        missing text (SourceText.line?_eq_some_iff.mp found)
    rw [sourceLine, absent]
    rfl
  unmarked unfit := Underline.underline_of_not_fits unfit
  marked fits := Underline.underline_shape fits
  under marked := by
    have fits : Fits range (sourceLine file range).length :=
      Decidable.not_not.mp (mt Underline.underline_of_not_fits marked)
    have shape := Underline.underline_shape fits
    have inside : range.columnEnd.toNat < (sourceLine file range).length := fits.2.2
    have shorter := shape.within
    rw [String.length_toList, String.length_toList] at shorter
    exact ⟨by omega, shape.caret, shape.single⟩

theorem Unbroken.heading {d : Diagnostic} (unbroken : d.Unbroken) :
    ∀ row ∈ d.heading, OneLine row := by
  have header : OneLine s!"{d.severity.name}: {d.message}" := by
    simp only [OneLine.append_iff, OneLine.toString_iff]
    exact ⟨⟨oneLine_name d.severity, by decide⟩, unbroken.message⟩
  rw [Diagnostic.heading]
  cases located : d.location with
  | none => exact List.forall_mem_singleton.mpr header
  | some location =>
    obtain ⟨file, range⟩ := location
    have path : OneLine file.path := unbroken.path _ located
    cases range with
    | none =>
      simp only [List.forall_mem_singleton, OneLine.append_iff, OneLine.toString_iff] at header ⊢
      exact ⟨⟨path, by decide⟩, header⟩
    | some range =>
      rw [List.forall_mem_cons, List.forall_mem_cons, List.forall_mem_singleton]
      refine ⟨?_, oneLine_sourceLine range path, oneLine_underline _ range⟩
      have numbers : OneLine (toString range.line) ∧ OneLine (toString range.columnStart) :=
        ⟨.of_digits _, .of_digits _⟩
      have signs : OneLine ":" ∧ OneLine ": " := by decide
      simp only [OneLine.append_iff, OneLine.toString_iff] at header ⊢
      exact ⟨⟨⟨⟨⟨⟨path, signs.1⟩, numbers.1⟩, signs.1⟩, numbers.2⟩, signs.2⟩, header⟩

/-- A rendered diagnostic whose message, throw site and path are on one line each: first its
header, then with a range what is shown of the file, then the throw site, then the details. -/
theorem render_lines (d : Diagnostic) (unbroken : d.Unbroken) :
    (d.location = none → linesOf d.render =
      s!"{d.severity.name}: {d.message}" :: s!"Thrown by {d.thrownBy.display}" ::
        linesOf d.details) ∧
    (∀ file, d.location = some ⟨file, none⟩ → linesOf d.render =
      s!"{file.path}: {d.severity.name}: {d.message}" :: s!"Thrown by {d.thrownBy.display}" ::
        linesOf d.details) ∧
    (∀ file range, d.location = some ⟨file, some range⟩ → ∃ source marker, linesOf d.render =
      s!"{file.path}:{range.line}:{range.columnStart}: {d.severity.name}: {d.message}" ::
        source :: marker :: s!"Thrown by {d.thrownBy.display}" :: linesOf d.details ∧
      Shown file range source marker) := by
  have thrown : OneLine s!"Thrown by {d.thrownBy.display}" := by
    rw [OneLine.append_iff]
    exact ⟨by decide, ThrowSite.oneLine_display unbroken.file unbroken.function⟩
  rw [linesOf_render unbroken.heading thrown]
  refine ⟨fun nowhere => ?_, fun file located => ?_, fun file range located => ?_⟩
  · rw [heading, nowhere]
    rfl
  · rw [heading, located]
    simp only [String.append_assoc, List.singleton_append]
    rfl
  · refine ⟨_, _, ?_, shown_sourceLine file range⟩
    rw [heading, located]
    simp only [String.append_assoc, List.cons_append, List.nil_append]
    rfl

/-- A call in the second line of a file whose lines end with carriage returns. -/
def indented : Diagnostic where
  severity := .error
  message := "Unknown call"
  thrownBy := ⟨"src/translate.rs", 118, "translate_expression"⟩
  details := "in main\nof the program"
  location := some ⟨⟨"main.swift", "let x = 1\r\n\tprint(x)\r\n"⟩, some ⟨2, 2, 7⟩⟩

theorem render_lines_indented :
    indented.Unbroken ∧
    linesOf indented.render =
      ["main.swift:2:2: error: Unknown call", "\tprint(x)", "\t^~~~~",
        "Thrown by translate:118 - translate_expression", "in main", "of the program"] ∧
    Shown ⟨"main.swift", "let x = 1\r\n\tprint(x)\r\n"⟩ ⟨2, 2, 7⟩ "\tprint(x)" "\t^~~~~" := by
  have unbroken : indented.Unbroken := by
    refine ⟨by decide, by decide, by decide, fun location located => ?_⟩
    cases located
    decide
  have lines : linesOf indented.render =
      ["main.swift:2:2: error: Unknown call", "\tprint(x)", "\t^~~~~",
        "Thrown by translate:118 - translate_expression", "in main", "of the program"] := by
    decide +kernel
  obtain ⟨source, marker, split, shown⟩ := (render_lines indented unbroken).2.2 _ _ rfl
  injection split.symm.trans lines with _ below
  injection below with sourceLine below
  injection below with markerLine _
  rw [sourceLine, markerLine] at shown
  exact ⟨unbroken, lines, shown⟩

end Diagnostic

end StagedBuild
