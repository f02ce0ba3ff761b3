import StagedBuild.Proofs.Layout

/-!
# Lines of a source file, put together again

A file has one line more than it has newlines, and the lines joined by newlines are the file again,
except for the carriage returns that end a line (`lines_rejoin`).

* `EndsLine`: a carriage return that ends a line, told by its place in the whole text. The last of
  a row of returns ends the line, those before it belong to it.
* `withoutReturns`: the text without them, everything else in its order.
* `intercalate_withoutReturn`: cutting the return off each piece is the same as taking these places
  out of the text.
-/

namespace StagedBuild.SourceText

/-- A carriage return stands here, and a newline or nothing comes after it. -/
def EndsLine (text : List Char) (place : Nat) : Prop :=
  text[place]? = some '\r' ∧ (text[place + 1]? = some '\n' ∨ place + 1 = text.length)

instance (text : List Char) (place : Nat) : Decidable (EndsLine text place) :=
  inferInstanceAs (Decidable (_ ∧ _))

/-- The characters of a text in their order, but for the carriage returns that end a line. -/
def withoutReturns (text : List Char) : List Char :=
  (List.range text.length).filterMap fun place =>
    if EndsLine text place then none else text[place]?

/-- How many lines a file has. -/
def lineCount (file : SourceText) : Nat :=
  file.contents.toList.count '\n' + 1

@[simp] theorem endsLine_succ (c : Char) (text : List Char) (place : Nat) :
    EndsLine (c :: text) (place + 1) ↔ EndsLine text place := by
  simp [EndsLine]

theorem endsLine_zero {c : Char} {text : List Char} :
    EndsLine (c :: text) 0 ↔ c = '\r' ∧ (text.head? = some '\n' ∨ text = []) := by
  have last : 0 + 1 = (c :: text).length ↔ text = [] := by
    rw [List.length_cons, ← List.length_eq_zero_iff]
    omega
  rw [EndsLine, last, List.getElem?_cons_zero, Nat.zero_add, List.getElem?_cons_succ,
    ← List.head?_eq_getElem?, Option.some.injEq]

/-- What is left of a text depends at its first character only on the one after it. -/
theorem withoutReturns_cons (c : Char) (text : List Char) :
    withoutReturns (c :: text) =
      (if EndsLine (c :: text) 0 then [] else [c]) ++ withoutReturns text := by
  rw [withoutReturns, List.length_cons, List.range_succ_eq_map, List.filterMap_cons,
    List.filterMap_map]
  have rest : (fun place => if EndsLine (c :: text) place then none else (c :: text)[place]?) ∘
      Nat.succ = fun place => if EndsLine text place then none else text[place]? := by
    funext place
    simp only [Function.comp_apply, Nat.succ_eq_add_one, endsLine_succ, List.getElem?_cons_succ]
  rw [rest, ← withoutReturns]
  by_cases ends : EndsLine (c :: text) 0
  · simp [ends]
  · simp [ends]

theorem withoutReturn_nil : withoutReturn [] = [] :=
  withoutReturn_eq_iff.mpr (.inr ⟨rfl, by simp⟩)

/-- Only a piece that is nothing but a return loses its first character. -/
theorem withoutReturn_cons (c : Char) (piece : List Char) :
    withoutReturn (c :: piece) =
      if c = '\r' ∧ piece = [] then [] else c :: withoutReturn piece := by
  by_cases alone : c = '\r' ∧ piece = []
  · obtain ⟨rfl, rfl⟩ := alone
    exact withoutReturn_eq_iff.mpr (.inl rfl)
  · rw [if_neg alone, withoutReturn_eq_iff]
    obtain whole | ⟨whole, noReturn⟩ :=
      withoutReturn_eq_iff.mp (rfl : withoutReturn piece = withoutReturn piece)
    · exact .inl (congrArg (List.cons c) whole)
    · refine .inr ⟨congrArg (List.cons c) whole, fun ending => ?_⟩
      rw [List.suffix_cons_iff, ← whole] at ending
      obtain same | later := ending
      · obtain ⟨first, rest⟩ := List.cons.inj same
        exact alone ⟨first.symm, rest.symm⟩
      · rw [← whole] at noReturn
        exact noReturn later

/-- Cutting the return off each piece between newlines takes the same characters away as looking
for the returns that end a line in the whole text. -/
theorem intercalate_withoutReturn (text : List Char) :
    ['\n'].intercalate ((text.splitOn '\n').map withoutReturn) = withoutReturns text := by
  induction text with
  | nil => rfl
  | cons c text ih =>
    obtain ⟨piece, pieces, split⟩ := List.exists_cons_of_ne_nil (List.splitOn_ne_nil '\n' text)
    have headEmpty := Text.head_splitOn_eq_nil split
    rw [withoutReturns_cons, ← ih, List.splitOn_cons_eq_if_modifyHead, split]
    by_cases newline : c = '\n'
    · have kept : ¬ EndsLine (c :: text) 0 := by
        rw [endsLine_zero, newline]
        simp
      rw [if_pos (by simpa using newline), if_neg kept, List.map_cons, List.map_cons,
        withoutReturn_nil, List.intercalate_cons_cons, newline]
      rfl
    · have ends : EndsLine (c :: text) 0 ↔ c = '\r' ∧ piece = [] := by
        rw [endsLine_zero, headEmpty]
      rw [if_neg (by simpa using newline), List.modifyHead_cons, List.map_cons, List.map_cons,
        withoutReturn_cons]
      by_cases alone : c = '\r' ∧ piece = []
      · rw [if_pos alone, if_pos (ends.mpr alone), alone.2, withoutReturn_nil, List.nil_append]
      · rw [if_neg alone, if_neg (mt ends.mp alone), List.intercalate_cons_cons_left]
        rfl

theorem length_lines (file : SourceText) : file.lines.length = file.lineCount := by
  rw [lines, Text.splitOn_eq, List.length_map, Text.length_splitOn, lineCount]

theorem exists_line?_iff {file : SourceText} {number : Nat} :
    (∃ line, file.line? number = some line) ↔ 1 ≤ number ∧ number ≤ file.lineCount := by
  rw [← length_lines]
  cases number with
  | zero => simp [line?]
  | succ index =>
    rw [line?, ← Option.isSome_iff_exists, isSome_getElem?]
    omega

/-- The lines looked up by their numbers are all lines. -/
theorem map_line? (file : SourceText) :
    (List.range' 1 file.lineCount).map file.line? = file.lines.map some := by
  rw [← length_lines]
  apply List.ext_getElem
  · simp
  · intro index inside _
    have below : index < file.lines.length := by simpa using inside
    simp [line?, Nat.add_comm 1 index, below]

theorem toList_join_lines (file : SourceText) :
    ("\n".intercalate file.lines).toList = withoutReturns file.contents.toList := by
  rw [String.toList_intercalate, lines, Text.splitOn_eq, List.map_map]
  have asList : String.toList ∘ (fun line => String.ofList (withoutReturn line)) =
      withoutReturn := by
    funext line
    exact String.toList_ofList
  rw [asList]
  exact intercalate_withoutReturn _

/-- A line exists for each number from one up to the count of newlines and one more, and has no
newline in it. All lines joined by newlines are the characters of the file in their order, without
the carriage returns that stand directly before a newline or at the very end. -/
theorem lines_rejoin (file : SourceText) :
    (∀ number, (∃ line, file.line? number = some line) ↔
      1 ≤ number ∧ number ≤ file.contents.toList.count '\n' + 1) ∧
    (∀ number line, file.line? number = some line → OneLine line) ∧
    ∃ lines, (List.range' 1 (file.contents.toList.count '\n' + 1)).map file.line? =
        lines.map some ∧
      ("\n".intercalate lines).toList = withoutReturns file.contents.toList := by
  refine ⟨fun number => exists_line?_iff, fun number line found => ?_, file.lines, ?_, ?_⟩
  · exact (line?_eq_some_iff.mp found).oneLine
  · exact map_line? file
  · exact toList_join_lines file

/-- Of two returns before a newline the first belongs to the line, like one inside of a line. -/
example : withoutReturns "a\r\r\n\rb\r".toList = "a\r\n\rb".toList := by decide

end StagedBuild.SourceText
