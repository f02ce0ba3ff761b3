import StagedBuild.Source

/-!
# Underlines

The marker line that points at a range of a source line: blanks up to the first column, a caret
under it, and tildes up to the end. Tabs before the caret are kept as tabs, so that the caret
stands under its column however wide tabs are shown.
-/

namespace StagedBuild.Underline

/-- The blank under one character of the source line. -/
def blankUnder (c : Char) : Char :=
  if c = '\t' then '\t' else ' '

/-- The range cannot be marked under a line of `length` characters: it does not end inside the
line, or it starts at no column, or past its end. -/
def Unmarkable (range : SourceRange) (length : Nat) : Prop :=
  length ≤ range.columnEnd.toNat ∨ range.columnStart = 0 ∨ range.columnEnd < range.columnStart

instance (range : SourceRange) (length : Nat) : Decidable (Unmarkable range length) :=
  inferInstanceAs (Decidable (_ ∨ _ ∨ _))

/-- The marker for a range under a line; empty when the range cannot be marked. -/
def marker (line : List Char) (range : SourceRange) : List Char :=
  if Unmarkable range line.length then []
  else
    (line.take (range.columnStart.toNat - 1)).map blankUnder ++
      '^' :: List.replicate (range.columnEnd.toNat - range.columnStart.toNat - 1) '~'

end StagedBuild.Underline

namespace StagedBuild

/-- The marker line shown under a source line. -/
def underline (line : String) (range : SourceRange) : String :=
  String.ofList (Underline.marker line.toList range)

end StagedBuild
