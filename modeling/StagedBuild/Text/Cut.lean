/-!
# Cutting text at separators

The pieces of a text before, after and between separators, over lists of characters. Paths,
source lines and type paths are all cut with these.
-/

namespace StagedBuild.Text

/-- The pieces between the separators: one more piece than there are separators. -/
def splitOn (sep : Char) : List Char → List (List Char)
  | [] => [[]]
  | c :: rest =>
    if c = sep then [] :: splitOn sep rest
    else match splitOn sep rest with
      | [] => [[c]]
      | piece :: pieces => (c :: piece) :: pieces

/-- The text up to the first separator, or all of it. -/
def beforeFirst (sep : Char) (text : List Char) : List Char :=
  text.takeWhile (· ≠ sep)

/-- The text after the last character that satisfies `isSep`, or all of it. -/
def afterLast (isSep : Char → Bool) (text : List Char) : List Char :=
  (text.reverse.takeWhile (fun c => !isSep c)).reverse

/-- The text before the last separator, or all of it. -/
def beforeLast (sep : Char) (text : List Char) : List Char :=
  match text.reverse.dropWhile (· ≠ sep) with
  | [] => text
  | _ :: before => before.reverse

/-- The text without `ending`, if it ends so. -/
def dropEnding? (ending text : List Char) : Option (List Char) :=
  if ending.isSuffixOf text then some (text.take (text.length - ending.length)) else none

/-- Removes `ending` as often as the text ends with it; an empty ending removes nothing. -/
def dropEndings (ending text : List Char) : List Char :=
  if 0 < ending.length ∧ ending.isSuffixOf text then
    dropEndings ending (text.take (text.length - ending.length))
  else text
termination_by text.length
decreasing_by
  rename_i h
  have := List.IsSuffix.length_le (List.isSuffixOf_iff_suffix.mp h.2)
  simp only [List.length_take]
  omega

theorem dropEnding?_eq_some_iff {ending text rest : List Char} :
    dropEnding? ending text = some rest ↔ text = rest ++ ending := by
  unfold dropEnding?
  constructor
  · intro h
    split at h
    · next hs =>
      obtain ⟨before, rfl⟩ := List.isSuffixOf_iff_suffix.mp hs
      have : before = rest := by simpa using h
      rw [this]
    · exact nomatch h
  · rintro rfl
    have hs : ending.isSuffixOf (rest ++ ending) = true :=
      List.isSuffixOf_iff_suffix.mpr ⟨rest, rfl⟩
    simp [hs]

end StagedBuild.Text
