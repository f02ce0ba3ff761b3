import StagedBuild.Diagnostic.Underline

/-!
# The shape of an underline

A range that fits its line gets a marker with one caret under its first column. In front of the
caret are the tabs of the line and otherwise spaces, after it tildes up to the end of the range.
The marker ends before the line does. A range that does not fit gets none
(`underline_shaped`).

`walk` makes the same marker column by column in 64-bit numbers. It stops at a sum or a difference
that is no such number, and at a column that is not in the line. It never does: the length of a
line is a 64-bit number, and a range that fits ends before it.

* `marker_shape`: the shape of the marker of a range that fits.
* `walk_eq_marker`: the walk comes to its end, with the marker.
-/

namespace StagedBuild.Underline

/-- The range can be marked under a line of `length` characters: its columns start at one or later,
end no earlier than they start, and end inside the line. -/
def Fits (range : SourceRange) (length : Nat) : Prop :=
  1 ≤ range.columnStart.toNat ∧ range.columnStart.toNat ≤ range.columnEnd.toNat ∧
    range.columnEnd.toNat < length

instance (range : SourceRange) (length : Nat) : Decidable (Fits range length) :=
  inferInstanceAs (Decidable (_ ∧ _ ∧ _))

/-- The shape of a marker under a line: its length, and what stands in every column. -/
structure Shape (source : List Char) (range : SourceRange) (marker : List Char) : Prop where
  length : marker.length = max range.columnEnd.toNat (range.columnStart.toNat + 1) - 1
  within : marker.length ≤ source.length - 1
  blanks : ∀ column, 1 ≤ column → column < range.columnStart.toNat →
    marker[column - 1]? = some (if source[column - 1]? = some '\t' then '\t' else ' ')
  caret : marker[range.columnStart.toNat - 1]? = some '^'
  single : marker.count '^' = 1
  tildes : marker.drop range.columnStart.toNat =
    List.replicate (range.columnEnd.toNat - range.columnStart.toNat - 1) '~'

/-- A range fits exactly if nothing is wrong with it. -/
theorem fits_iff {range : SourceRange} {length : Nat} :
    Fits range length ↔ ¬ Unmarkable range length := by
  have zero : range.columnStart = 0 ↔ range.columnStart.toNat = 0 := UInt64.toNat_inj.symm
  rw [Fits, Unmarkable, zero, UInt64.lt_iff_toNat_lt]
  omega

theorem not_fits_iff {range : SourceRange} {length : Nat} :
    ¬ Fits range length ↔ Unmarkable range length := by
  rw [fits_iff, Decidable.not_not]

section Marker

variable {source : List Char} {range : SourceRange}

theorem marker_of_fits (fits : Fits range source.length) :
    marker source range = (source.take (range.columnStart.toNat - 1)).map blankUnder ++
      '^' :: List.replicate (range.columnEnd.toNat - range.columnStart.toNat - 1) '~' :=
  if_neg (fits_iff.mp fits)

theorem marker_of_not_fits (unfit : ¬ Fits range source.length) : marker source range = [] :=
  if_pos (not_fits_iff.mp unfit)

theorem blankUnder_ne_caret (c : Char) : blankUnder c ≠ '^' := by
  unfold blankUnder
  split <;> decide

/-- The blanks reach up to the column before the caret. -/
theorem length_blanks (fits : Fits range source.length) :
    ((source.take (range.columnStart.toNat - 1)).map blankUnder).length =
      range.columnStart.toNat - 1 := by
  obtain ⟨-, ordered, inside⟩ := fits
  rw [List.length_map, List.length_take]
  omega

theorem marker_shape (fits : Fits range source.length) :
    Shape source range (marker source range) := by
  have blanksLength := length_blanks fits
  have ⟨positive, ordered, inside⟩ := fits
  rw [marker_of_fits fits]
  have length : ((source.take (range.columnStart.toNat - 1)).map blankUnder ++ '^' ::
      List.replicate (range.columnEnd.toNat - range.columnStart.toNat - 1) '~').length =
      max range.columnEnd.toNat (range.columnStart.toNat + 1) - 1 := by
    rw [List.length_append, blanksLength, List.length_cons, List.length_replicate]
    omega
  refine ⟨length, by omega, fun column first before => ?_, ?_, ?_, ?_⟩
  · have present : column - 1 < source.length := by omega
    rw [List.getElem?_append_left (by omega), List.getElem?_map,
      List.getElem?_take_of_lt (by omega), List.getElem?_eq_getElem present]
    simp [blankUnder]
  · rw [List.getElem?_append_right (by omega), blanksLength, Nat.sub_self]
    rfl
  · have absent : ((source.take (range.columnStart.toNat - 1)).map blankUnder).count '^' = 0 := by
      rw [List.count_eq_zero, List.mem_map]
      rintro ⟨c, -, same⟩
      exact blankUnder_ne_caret c same
    rw [List.count_append, absent, List.count_cons_self, List.count_replicate]
    rfl
  · rw [List.drop_append, blanksLength, List.drop_eq_nil_of_le (by omega), List.nil_append]
    simp [show range.columnStart.toNat - (range.columnStart.toNat - 1) = 1 by omega]

end Marker

theorem toList_underline (line : String) (range : SourceRange) :
    (underline line range).toList = marker line.toList range := String.toList_ofList

theorem underline_of_not_fits {line : String} {range : SourceRange}
    (unfit : ¬ Fits range line.length) : underline line range = "" := by
  rw [← String.length_toList] at unfit
  rw [underline, marker_of_not_fits unfit]

theorem underline_shape {line : String} {range : SourceRange} (fits : Fits range line.length) :
    Shape line.toList range (underline line range).toList := by
  rw [← String.length_toList] at fits
  rw [toList_underline]
  exact marker_shape fits

/-- Why a walk along the columns of a line would stop. -/
inductive Fault where
  /-- The column is not in the line. -/
  | outside
  /-- The result is no 64-bit number. -/
  | overflow
  deriving DecidableEq, Repr

/-- The sum of two 64-bit numbers. -/
def plus (a b : UInt64) : Except Fault UInt64 :=
  if a.toNat + b.toNat < UInt64.size then .ok (a + b) else .error .overflow

/-- The difference of two 64-bit numbers. -/
def minus (a b : UInt64) : Except Fault UInt64 :=
  if b ≤ a then .ok (a - b) else .error .overflow

/-- The character at an index of the line. -/
def lookUp (source : List Char) (index : UInt64) : Except Fault Char :=
  match source[index.toNat]? with
  | some c => .ok c
  | none => .error .outside

/-- The columns from the first one up to the last one, which does not belong to them. -/
def columns (first last : UInt64) : List UInt64 :=
  (List.range' first.toNat (last.toNat - first.toNat)).map UInt64.ofNat

/-- The blank in a column before the caret. -/
def blankAt (source : List Char) (column : UInt64) : Except Fault Char := do
  let index ← minus column 1
  let above ← lookUp source index
  return blankUnder above

/-- The marker, made column by column. -/
def walk (source : List Char) (range : SourceRange) : Except Fault (List Char) := do
  if Unmarkable range source.length then
    return []
  else
    let blanks ← (columns 1 range.columnStart).mapM (blankAt source)
    let next ← plus range.columnStart 1
    return blanks ++ '^' :: (columns next range.columnEnd).map fun _ => '~'

/-- A column has one before it, counted from zero. -/
theorem minus_one {index : Nat} (small : index + 1 < UInt64.size) :
    minus (UInt64.ofNat (index + 1)) 1 = .ok (UInt64.ofNat index) := by
  have column : (UInt64.ofNat (index + 1)).toNat = index + 1 := UInt64.toNat_ofNat_of_lt' small
  have one : (1 : UInt64) ≤ UInt64.ofNat (index + 1) := by
    rw [UInt64.le_iff_toNat_le, column]
    exact Nat.le_add_left 1 index
  have before : UInt64.ofNat (index + 1) - 1 = UInt64.ofNat index := by
    rw [← UInt64.toNat_inj, UInt64.toNat_sub_of_le _ _ one, column,
      UInt64.toNat_ofNat_of_lt' (by omega)]
    rfl
  rw [minus, if_pos one, before]

theorem plus_one {column : UInt64} (room : column.toNat + 1 < UInt64.size) :
    ∃ next, plus column 1 = .ok next ∧ next.toNat = column.toNat + 1 :=
  ⟨column + 1, if_pos room, (UInt64.toNat_add _ _).trans (Nat.mod_eq_of_lt room)⟩

theorem lookUp_of_lt {source : List Char} {index : Nat} (small : index < UInt64.size)
    (inside : index < source.length) : lookUp source (UInt64.ofNat index) = .ok source[index] := by
  rw [lookUp, UInt64.toNat_ofNat_of_lt' small, List.getElem?_eq_getElem inside]

/-- A column of the line has its blank. -/
theorem blankAt_succ {source : List Char} {index : Nat} (small : index + 1 < UInt64.size)
    (inside : index < source.length) :
    blankAt source (UInt64.ofNat (index + 1)) = .ok (blankUnder source[index]) := by
  rw [blankAt, minus_one small]
  change (lookUp source (UInt64.ofNat index) >>= fun above => pure (blankUnder above)) = _
  rw [lookUp_of_lt (Nat.lt_of_succ_lt small) inside]
  rfl

/-- The blanks over so many columns of the line, by induction with the newest column last. -/
theorem mapM_blankAt {source : List Char} {number : Nat} (small : number < UInt64.size)
    (inside : number ≤ source.length) :
    ((List.range' 1 number).map UInt64.ofNat).mapM (blankAt source) =
      .ok ((source.take number).map blankUnder) := by
  induction number with
  | zero => rfl
  | succ number ih =>
    have before := ih (Nat.lt_of_succ_lt small) (Nat.le_of_succ_le inside)
    have last : [UInt64.ofNat (number + 1)].mapM (blankAt source) =
        .ok [blankUnder source[number]] := by
      rw [List.mapM_cons, blankAt_succ small inside]
      rfl
    rw [List.range'_concat, Nat.one_mul, Nat.add_comm 1 number, List.map_append, List.mapM_append,
      before, List.map_singleton, last, List.take_add_one, List.getElem?_eq_getElem inside,
      List.map_append]
    rfl

theorem walk_eq_marker {source : List Char} (range : SourceRange)
    (small : source.length < UInt64.size) : walk source range = .ok (marker source range) := by
  by_cases fits : Fits range source.length
  · have ⟨positive, ordered, inside⟩ := fits
    have blanks : (columns 1 range.columnStart).mapM (blankAt source) =
        .ok ((source.take (range.columnStart.toNat - 1)).map blankUnder) :=
      mapM_blankAt (by omega) (by omega)
    -- Only column 2 ^ 64 - 1 has no next column, and a range that fits does not start there.
    have room : range.columnStart.toNat + 1 < UInt64.size := by omega
    obtain ⟨next, made, column⟩ := plus_one room
    have tildes : ((columns next range.columnEnd).map fun _ => '~') =
        List.replicate (range.columnEnd.toNat - range.columnStart.toNat - 1) '~' := by
      rw [List.map_const', columns, List.length_map, List.length_range', column, Nat.sub_sub]
    rw [walk, if_neg (fits_iff.mp fits), blanks, marker_of_fits fits, ← tildes]
    change (plus range.columnStart 1 >>= _) = _
    rw [made]
    rfl
  · rw [walk, if_pos (not_fits_iff.mp fits), marker_of_not_fits fits]
    rfl

/-- Without a fit there is no marker, and with one it has its shape. Made column by column, the
marker of a line whose length is a 64-bit number needs no column outside of the line, and no number
outside of 64 bits. -/
theorem underline_shaped (line : String) (range : SourceRange) :
    (¬ Fits range line.length → underline line range = "") ∧
    (Fits range line.length → Shape line.toList range (underline line range).toList) ∧
    (line.length < UInt64.size → walk line.toList range = .ok (underline line range).toList) := by
  refine ⟨underline_of_not_fits, underline_shape, fun small => ?_⟩
  rw [← String.length_toList] at small
  rw [toList_underline]
  exact walk_eq_marker range small

/-- A range without columns still has its caret. -/
example : underline "\tlet x" ⟨1, 2, 2⟩ = "\t^" := by decide

end StagedBuild.Underline
