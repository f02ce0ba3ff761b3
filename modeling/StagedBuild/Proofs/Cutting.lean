import StagedBuild.Text.Cut

/-!
# What the pieces of a text are

The pieces between separators are those of the library's `List.splitOn`, so no piece has a
separator in it. The text after the last separator and the text before it are told by where that
separator stands (`afterLast_eq_iff`, `beforeLast_eq_iff`). Removing an ending as often as it is
there comes to an end, and leaves a text that does not end so (`dropEndings_eq_iff`).
-/

namespace StagedBuild.Text

theorem splitOn_eq (sep : Char) (text : List Char) : splitOn sep text = text.splitOn sep := by
  induction text with
  | nil => rfl
  | cons c text ih =>
    rw [splitOn, ih, List.splitOn_cons_eq_if_modifyHead]
    by_cases cut : c = sep
    · simp [cut]
    · rw [if_neg cut, if_neg (by simpa using cut)]
      cases pieces : text.splitOn sep with
      | nil => exact absurd pieces (List.splitOn_ne_nil _ _)
      | cons piece more => rfl

theorem not_mem_of_mem_splitOn {sep : Char} {text piece : List Char}
    (member : piece ∈ text.splitOn sep) : sep ∉ piece := by
  induction text generalizing piece with
  | nil =>
    rw [List.splitOn_nil, List.mem_singleton] at member
    rw [member]
    exact List.not_mem_nil
  | cons c text ih =>
    rw [List.splitOn_cons_eq_if_modifyHead] at member
    by_cases cut : c = sep
    · rw [if_pos (by simpa using cut), List.mem_cons] at member
      obtain rfl | later := member
      · exact List.not_mem_nil
      · exact ih later
    · rw [if_neg (by simpa using cut)] at member
      cases pieces : text.splitOn sep with
      | nil => exact absurd pieces (List.splitOn_ne_nil _ _)
      | cons first more =>
        rw [pieces, List.modifyHead_cons, List.mem_cons] at member
        obtain rfl | later := member
        · rw [List.mem_cons, not_or]
          exact ⟨Ne.symm cut, ih (by rw [pieces]; exact List.mem_cons_self)⟩
        · exact ih (by rw [pieces]; exact List.mem_cons_of_mem _ later)

/-- There is one piece more than there are separators. -/
theorem length_splitOn (sep : Char) (text : List Char) :
    (text.splitOn sep).length = text.count sep + 1 := by
  induction text with
  | nil => rfl
  | cons c text ih =>
    rw [List.splitOn_cons_eq_if_modifyHead, List.count_cons]
    by_cases cut : c = sep
    · simp [cut, ih]
    · simp [cut, ih]

/-- The first piece of a text is empty if the text is, or if it starts with the separator. -/
theorem head_splitOn_eq_nil {sep : Char} {text piece : List Char} {pieces : List (List Char)}
    (split : text.splitOn sep = piece :: pieces) :
    piece = [] ↔ text.head? = some sep ∨ text = [] := by
  cases text with
  | nil =>
    rw [List.splitOn_nil] at split
    obtain ⟨rfl, -⟩ := List.cons.inj split
    simp
  | cons c text =>
    rw [List.splitOn_cons_eq_if_modifyHead] at split
    by_cases cut : c = sep
    · rw [if_pos (by simpa using cut)] at split
      obtain ⟨rfl, -⟩ := List.cons.inj split
      simp [cut]
    · rw [if_neg (by simpa using cut)] at split
      obtain ⟨first, more, pieces'⟩ := List.exists_cons_of_ne_nil (List.splitOn_ne_nil sep text)
      rw [pieces', List.modifyHead_cons] at split
      obtain ⟨rfl, -⟩ := List.cons.inj split
      simp [cut]

theorem mem_of_mem_beforeFirst {sep c : Char} {text : List Char}
    (member : c ∈ beforeFirst sep text) : c ∈ text :=
  (List.takeWhile_sublist _).subset member

theorem mem_of_mem_afterLast {isSep : Char → Bool} {c : Char} {text : List Char}
    (member : c ∈ afterLast isSep text) : c ∈ text := by
  rw [afterLast, List.mem_reverse] at member
  exact List.mem_reverse.mp ((List.takeWhile_sublist _).subset member)

/-- A text has no separator, or there is a last one. -/
theorem cut_last (sep : Char) (text : List Char) :
    sep ∉ text ∨ ∃ before piece, text = before ++ sep :: piece ∧ sep ∉ piece := by
  by_cases member : sep ∈ text
  · obtain ⟨front, back, cut, plain⟩ :=
      List.eq_append_cons_of_mem (List.mem_reverse.mpr member)
    refine .inr ⟨back.reverse, front.reverse, ?_, mt List.mem_reverse.mp plain⟩
    rw [← List.reverse_reverse text, cut]
    simp
  · exact .inl member

section

variable {sep : Char} {before piece : List Char}

theorem ne_of_plain (plain : sep ∉ piece) : ∀ c ∈ piece.reverse, c ≠ sep := by
  rintro c member rfl
  exact plain (List.mem_reverse.mp member)

theorem afterLast_plain (plain : sep ∉ piece) : afterLast (· == sep) piece = piece := by
  have other : ∀ c ∈ piece.reverse, (!c == sep) = true := by simpa using ne_of_plain plain
  rw [afterLast, ← List.append_nil piece.reverse, List.takeWhile_append_of_pos other]
  simp

theorem afterLast_cut (plain : sep ∉ piece) :
    afterLast (· == sep) (before ++ sep :: piece) = piece := by
  have other : ∀ c ∈ piece.reverse, (!c == sep) = true := by simpa using ne_of_plain plain
  rw [afterLast, List.reverse_append, List.reverse_cons, List.append_assoc,
    List.takeWhile_append_of_pos other, List.singleton_append,
    List.takeWhile_cons_of_neg (by simp), List.append_nil, List.reverse_reverse]

theorem beforeLast_plain (plain : sep ∉ piece) : beforeLast sep piece = piece := by
  have other : ∀ c ∈ piece.reverse, decide (c ≠ sep) = true := by simpa using ne_of_plain plain
  rw [beforeLast, ← List.append_nil piece.reverse, List.dropWhile_append_of_pos other]
  rfl

theorem beforeLast_cut (plain : sep ∉ piece) :
    beforeLast sep (before ++ sep :: piece) = before := by
  have other : ∀ c ∈ piece.reverse, decide (c ≠ sep) = true := by simpa using ne_of_plain plain
  rw [beforeLast, List.reverse_append, List.reverse_cons, List.append_assoc,
    List.dropWhile_append_of_pos other, List.singleton_append,
    List.dropWhile_cons_of_neg (by simp)]
  exact List.reverse_reverse before

end

/-- What is after the last separator is without one and ends the text, and before it there is
nothing or a separator. -/
theorem afterLast_eq_iff {sep : Char} {text piece : List Char} :
    afterLast (· == sep) text = piece ↔
      sep ∉ piece ∧ (text = piece ∨ ∃ before, text = before ++ sep :: piece) := by
  constructor
  · rintro rfl
    obtain plain | ⟨before, piece, rfl, plain⟩ := cut_last sep text
    · rw [afterLast_plain plain]
      exact ⟨plain, .inl rfl⟩
    · rw [afterLast_cut plain]
      exact ⟨plain, .inr ⟨before, rfl⟩⟩
  · rintro ⟨plain, rfl | ⟨before, rfl⟩⟩
    · exact afterLast_plain plain
    · exact afterLast_cut plain

/-- What is before the last separator is the whole text if it has none. -/
theorem beforeLast_eq_iff {sep : Char} {text front : List Char} :
    beforeLast sep text = front ↔
      text = front ∧ sep ∉ text ∨ ∃ piece, text = front ++ sep :: piece ∧ sep ∉ piece := by
  constructor
  · rintro rfl
    obtain plain | ⟨before, piece, rfl, plain⟩ := cut_last sep text
    · rw [beforeLast_plain plain]
      exact .inl ⟨rfl, plain⟩
    · rw [beforeLast_cut plain]
      exact .inr ⟨piece, rfl, plain⟩
  · rintro (⟨rfl, plain⟩ | ⟨piece, rfl, plain⟩)
    · exact beforeLast_plain plain
    · exact beforeLast_cut plain

section

variable {ending : List Char}

theorem dropEndings_of_not_suffix {text : List Char} (done : ¬ ending <:+ text) :
    dropEndings ending text = text := by
  rw [dropEndings, if_neg]
  rintro ⟨-, ends⟩
  exact done (List.isSuffixOf_iff_suffix.mp ends)

theorem dropEndings_append (nonempty : ending ≠ []) (text : List Char) :
    dropEndings ending (text ++ ending) = dropEndings ending text := by
  have ends : ending.isSuffixOf (text ++ ending) = true :=
    List.isSuffixOf_iff_suffix.mpr (List.suffix_append text ending)
  have front : (text ++ ending).take ((text ++ ending).length - ending.length) = text := by
    simp
  rw [dropEndings, if_pos ⟨List.length_pos_iff.mpr nonempty, ends⟩, front]

/-- Any number of endings goes. -/
theorem dropEndings_append_replicate (nonempty : ending ≠ []) (text : List Char) (count : Nat) :
    dropEndings ending (text ++ (List.replicate count ending).flatten) =
      dropEndings ending text := by
  induction count with
  | zero => simp
  | succ count ih =>
    rw [List.replicate_succ', List.flatten_concat, ← List.append_assoc,
      dropEndings_append nonempty, ih]

/-- After some rounds there is no ending left to remove. -/
theorem rounds_dropEndings (nonempty : ending ≠ []) (text : List Char) :
    ¬ ending <:+ dropEndings ending text ∧
      ∃ count, text = dropEndings ending text ++ (List.replicate count ending).flatten := by
  induction text using dropEndings.induct ending with
  | case1 text ends ih =>
    obtain ⟨front, cut⟩ := List.isSuffixOf_iff_suffix.mp ends.2
    have shorter : text.take (text.length - ending.length) = front := by
      rw [← cut]
      simp
    rw [shorter] at ih
    obtain ⟨done, count, rounds⟩ := ih
    rw [← cut, dropEndings_append nonempty]
    refine ⟨done, count + 1, ?_⟩
    rw [List.replicate_succ', List.flatten_concat, ← List.append_assoc, ← rounds]
  | case2 text ends =>
    have done : ¬ ending <:+ text := by
      intro suffix
      exact ends ⟨List.length_pos_iff.mpr nonempty, List.isSuffixOf_iff_suffix.mpr suffix⟩
    rw [dropEndings_of_not_suffix done]
    exact ⟨done, 0, by simp⟩

theorem dropEndings_eq_iff (nonempty : ending ≠ []) {text rest : List Char} :
    dropEndings ending text = rest ↔
      ¬ ending <:+ rest ∧ ∃ count, text = rest ++ (List.replicate count ending).flatten := by
  constructor
  · rintro rfl
    exact rounds_dropEndings nonempty text
  · rintro ⟨done, count, rfl⟩
    rw [dropEndings_append_replicate nonempty, dropEndings_of_not_suffix done]

end

theorem dropEnding?_eq_none_iff {ending text : List Char} :
    dropEnding? ending text = none ↔ ¬ ending <:+ text := by
  rw [Option.eq_none_iff_forall_ne_some]
  constructor
  · rintro stays ⟨rest, cut⟩
    exact stays rest (dropEnding?_eq_some_iff.mpr cut.symm)
  · intro stays rest dropped
    exact stays ⟨rest, (dropEnding?_eq_some_iff.mp dropped).symm⟩

end StagedBuild.Text
