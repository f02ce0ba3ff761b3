import Mathlib.Logic.ExistsUnique
import StagedBuild.Proofs.Cutting
import StagedBuild.ThrowSite

/-!
# The function that a marker is in

A throw site names a function by the path of a marker inside of it: the marker's sign and those of
all closures around it are stripped, and the last segment of what is left is the function. It is
found at any depth of closures and behind any scope (`ofTypePath_function`).

* `cut_lastSegment`, `not_doubleColon_lastSegment`: what the last segment of a path is.
* `Strips`: stripping, said without the loop. `strips_iff` ties it to the loop, so it has one result
  for every path.
-/

namespace StagedBuild

namespace ThrowSite

/-- What is before a double colon is the front of the text, up to one or to its end. -/
theorem cut_beforeDoubleColon (text : List Char) :
    text = beforeDoubleColon text ∨
      ∃ rest, text = beforeDoubleColon text ++ ':' :: ':' :: rest := by
  induction text using beforeDoubleColon.induct with
  | case1 rest => exact .inr ⟨rest, by rw [beforeDoubleColon]; rfl⟩
  | case2 c rest other ih =>
    rw [beforeDoubleColon]
    · obtain whole | ⟨later, cut⟩ := ih
      · exact .inl (congrArg (List.cons c) whole)
      · exact .inr ⟨later, congrArg (List.cons c) cut⟩
    · exact other
  | case3 => exact .inl rfl

theorem beforeDoubleColon_starts (text : List Char) : beforeDoubleColon text <+: text := by
  obtain whole | ⟨rest, cut⟩ := cut_beforeDoubleColon text
  · exact ⟨[], by rw [List.append_nil, ← whole]⟩
  · exact ⟨_, cut.symm⟩

/-- There is no double colon before the first one. -/
theorem not_doubleColon_beforeDoubleColon (text : List Char) :
    ¬ [':', ':'] <:+: beforeDoubleColon text := by
  induction text using beforeDoubleColon.induct with
  | case1 rest => simp [beforeDoubleColon]
  | case2 c rest other ih =>
    rw [beforeDoubleColon]
    · rw [List.infix_cons_iff]
      rintro (starts | later)
      · obtain ⟨colon, next⟩ := List.cons_prefix_cons.mp starts
        obtain ⟨more, cut⟩ := next.trans (beforeDoubleColon_starts rest)
        exact other more colon.symm cut.symm
      · exact ih later
    · exact other
  | case3 => simp [beforeDoubleColon]

theorem beforeDoubleColon_plain {piece : List Char} (plain : ':' ∉ piece) :
    beforeDoubleColon piece = piece := by
  induction piece with
  | nil => rfl
  | cons c piece ih =>
    rw [List.mem_cons, not_or] at plain
    rw [beforeDoubleColon, ih plain.2]
    rintro rest rfl
    exact absurd rfl plain.1

theorem beforeDoubleColon_cut {piece : List Char} (plain : ':' ∉ piece) (rest : List Char) :
    beforeDoubleColon (piece ++ ':' :: ':' :: rest) = piece := by
  induction piece with
  | nil => rw [List.nil_append, beforeDoubleColon]
  | cons c piece ih =>
    rw [List.mem_cons, not_or] at plain
    rw [List.cons_append, beforeDoubleColon, ih plain.2]
    rintro rest rfl
    exact absurd rfl plain.1

theorem lastSegment_plain {name : List Char} (plain : ':' ∉ name) : lastSegment name = name := by
  rw [lastSegment, beforeDoubleColon_plain (mt List.mem_reverse.mp plain), List.reverse_reverse]

/-- What is behind a double colon and has no colon in it is the last segment. -/
theorem lastSegment_of_suffix {name path : List Char} (plain : ':' ∉ name)
    (ends : ':' :: ':' :: name <:+ path) : lastSegment path = name := by
  obtain ⟨scope, rfl⟩ := ends
  have mirrored : (scope ++ ':' :: ':' :: name).reverse =
      name.reverse ++ ':' :: ':' :: scope.reverse := by simp
  rw [lastSegment, mirrored, beforeDoubleColon_cut (mt List.mem_reverse.mp plain),
    List.reverse_reverse]

/-- A path is its last segment, or that is behind a double colon. -/
theorem cut_lastSegment (path : List Char) :
    path = lastSegment path ∨ ∃ scope, path = scope ++ ':' :: ':' :: lastSegment path := by
  obtain whole | ⟨rest, cut⟩ := cut_beforeDoubleColon path.reverse
  · exact .inl (List.reverse_eq_iff.mp whole)
  · refine .inr ⟨rest.reverse, ?_⟩
    have mirrored := List.reverse_eq_iff.mp cut
    rw [List.reverse_append, List.reverse_cons, List.reverse_cons, List.append_assoc,
      List.append_assoc, List.singleton_append, List.singleton_append, ← lastSegment] at mirrored
    exact mirrored

theorem not_doubleColon_lastSegment (path : List Char) : ¬ [':', ':'] <:+: lastSegment path := by
  intro inside
  have mirrored := List.reverse_infix.mpr inside
  rw [lastSegment, List.reverse_reverse] at mirrored
  exact not_doubleColon_beforeDoubleColon _ mirrored

/-- What the marker adds to the path of what it is in. -/
def markerSign : String := "::here"

/-- The segment that stands for a closure. -/
def closureName : String := "\x7b\x7bclosure\x7d\x7d"

/-- What a closure adds to the path of what it is in. -/
def closureSign : String := "::\x7b\x7bclosure\x7d\x7d"

/-- The path of a function, in a scope or by itself. -/
def pathOf : Option String → String → String
  | none, name => name
  | some scope, name => scope ++ "::" ++ name

/-- The path of a closure that is so deep in something; at depth zero it is the path itself. -/
def inClosures (path : String) (depth : Nat) : String :=
  path ++ String.join (List.replicate depth closureSign)

/-- The marker's sign is taken off a path if it is there, and then the closures' one by one until
there is none left. -/
def Strips (path left : String) : Prop :=
  ∃ outer rounds,
    (path = outer ++ markerSign ∨ path = outer ∧ ¬ markerSign.toList <:+ path.toList) ∧
    outer = inClosures left rounds ∧ ¬ closureSign.toList <:+ left.toList

theorem toList_inClosures (path : String) (depth : Nat) :
    (inClosures path depth).toList =
      path.toList ++ (List.replicate depth closureSign.toList).flatten := by
  rw [inClosures, String.toList_append, String.toList_join, List.flatMap_def,
    List.map_replicate]

theorem lastSegment_pathOf (scope : Option String) {name : String} (plain : ':' ∉ name.toList) :
    lastSegment (pathOf scope name).toList = name.toList := by
  cases scope with
  | none => exact lastSegment_plain plain
  | some scope =>
    refine lastSegment_of_suffix plain ⟨scope.toList, ?_⟩
    simp [pathOf, String.toList_append]

/-- The path that the marker is put behind, or the path itself if it has no marker. -/
theorem withoutMarker_iff {path outer : String} :
    (path = outer ++ markerSign ∨ path = outer ∧ ¬ markerSign.toList <:+ path.toList) ↔
      (Text.dropEnding? markerSign.toList path.toList).getD path.toList = outer.toList := by
  constructor
  · rintro (marked | ⟨rfl, unmarked⟩)
    · have dropped : Text.dropEnding? markerSign.toList path.toList = some outer.toList := by
        rw [Text.dropEnding?_eq_some_iff, marked, String.toList_append]
      rw [dropped, Option.getD_some]
    · rw [Text.dropEnding?_eq_none_iff.mpr unmarked, Option.getD_none]
  · intro same
    cases dropped : Text.dropEnding? markerSign.toList path.toList with
    | some front =>
      rw [dropped, Option.getD_some] at same
      rw [same, Text.dropEnding?_eq_some_iff, ← String.toList_append] at dropped
      exact .inl (String.toList_inj.mp dropped)
    | none =>
      rw [dropped, Option.getD_none] at same
      exact .inr ⟨String.toList_inj.mp same, Text.dropEnding?_eq_none_iff.mp dropped⟩

/-- Stripping a path has one result: the text whose last segment is the function. -/
theorem strips_iff {path left : String} :
    Strips path left ↔ Text.dropEndings closureSign.toList
      ((Text.dropEnding? markerSign.toList path.toList).getD path.toList) = left.toList := by
  have sign : closureSign.toList ≠ [] := by decide
  rw [Text.dropEndings_eq_iff sign]
  constructor
  · rintro ⟨outer, rounds, unmarked, closures, done⟩
    refine ⟨done, rounds, ?_⟩
    rw [withoutMarker_iff.mp unmarked, closures, toList_inClosures]
  · rintro ⟨done, rounds, closures⟩
    rw [← toList_inClosures] at closures
    exact ⟨_, rounds, withoutMarker_iff.mpr closures, rfl, done⟩

theorem Strips.function {path left : String} (strips : Strips path left) :
    enclosingFunction path = String.ofList (lastSegment left.toList) := by
  rw [← strips_iff.mp strips]
  rfl

/-- What is left has no closure at its end. -/
theorem Strips.done {path left : String} (strips : Strips path left) :
    ¬ closureSign.toList <:+ left.toList := by
  obtain ⟨-, -, -, -, done⟩ := strips
  exact done

/-- The function is what is left, or stands at its end behind a double colon. -/
theorem Strips.cut {path left : String} (strips : Strips path left) :
    left = enclosingFunction path ∨ ∃ scope, left = scope ++ "::" ++ enclosingFunction path := by
  rw [strips.function]
  obtain whole | ⟨scope, cut⟩ := cut_lastSegment left.toList
  · left
    rw [← whole, String.ofList_toList]
  · refine .inr ⟨String.ofList scope, String.toList_inj.mp ?_⟩
    simpa [String.toList_append] using cut

theorem Strips.not_doubleColon {path left : String} (strips : Strips path left) :
    ¬ "::".toList <:+: (enclosingFunction path).toList := by
  have text : (enclosingFunction path).toList = lastSegment left.toList := by
    rw [strips.function, String.toList_ofList]
  rw [text]
  exact not_doubleColon_lastSegment left.toList

/-- A closure for a function is all that is left: behind a scope it would have been stripped. -/
theorem Strips.eq_closureName {path left : String} (strips : Strips path left)
    (closure : enclosingFunction path = closureName) : left = closureName := by
  obtain whole | ⟨scope, behind⟩ := strips.cut
  · rw [whole, closure]
  · have sign : closureSign = "::" ++ closureName := by decide
    refine absurd ?_ strips.done
    rw [behind, closure, String.append_assoc, ← sign, String.toList_append]
    exact List.suffix_append _ _

/-- The rounds come to an end, and at one text. -/
theorem existsUnique_strips (path : String) : ∃! left, Strips path left := by
  refine ⟨String.ofList _, strips_iff.mpr String.toList_ofList.symm, fun left strips => ?_⟩
  rw [strips_iff.mp strips, String.ofList_toList]

/-- Only a path with this last segment ends with the segment's sign. -/
theorem not_sign_suffix {path name word sign : String}
    (last : lastSegment path.toList = name.toList)
    (isSign : sign.toList = ':' :: ':' :: word.toList) (plain : ':' ∉ word.toList)
    (other : name ≠ word) : ¬ sign.toList <:+ path.toList := by
  intro ends
  rw [isSign] at ends
  exact other (String.toList_inj.mp (last.symm.trans (lastSegment_of_suffix plain ends)))

/-- The last segment of a path in closures is the closures'. -/
theorem lastSegment_inClosures (path : String) (depth : Nat) :
    lastSegment (inClosures path (depth + 1)).toList = closureName.toList := by
  refine lastSegment_of_suffix (by decide) ?_
  rw [toList_inClosures, List.replicate_succ', List.flatten_concat, ← List.append_assoc]
  exact List.suffix_append _ _

/-- The path of a function in closures does not end like a marker's, but for a function of the
marker's name in no closure. -/
theorem not_markerSign_suffix {path name : String} {depth : Nat}
    (last : lastSegment path.toList = name.toList) (told : name ≠ "here" ∨ 0 < depth) :
    ¬ markerSign.toList <:+ (inClosures path depth).toList := by
  cases depth with
  | zero =>
    have other : name ≠ "here" := told.resolve_right (Nat.lt_irrefl 0)
    rw [toList_inClosures, List.replicate_zero, List.flatten_nil, List.append_nil]
    exact not_sign_suffix last (by decide) (by decide) other
  | succ depth =>
    have other : closureName ≠ "here" := by decide
    exact not_sign_suffix (lastSegment_inClosures path depth) (by decide) (by decide) other

/-- The site of a marker has the file and line that are given, and the function that the marker is
in: it is found behind any scope and below any number of closures, and likewise from the path
without the marker's sign, unless a function of the marker's own name ends the path. Of any path the
signs are stripped in a number of rounds, until one text is left. The function is the last segment
of that text; it has no double colon in it, and is a closure only if nothing else is left. -/
theorem ofTypePath_function (file : String) (line : UInt32) :
    (∀ (scope : Option String) (name : String) (depth : Nat),
      ':' ∉ name.toList → name ≠ closureName →
      ofTypePath file line (inClosures (pathOf scope name) depth ++ markerSign) =
        ⟨file, line, name⟩ ∧
      (name ≠ "here" ∨ 0 < depth →
        ofTypePath file line (inClosures (pathOf scope name) depth) = ⟨file, line, name⟩)) ∧
    ∀ path, (∃! left, Strips path left) ∧ ∀ left, Strips path left →
      let function := (ofTypePath file line path).function
      (left = function ∨ ∃ scope, left = scope ++ "::" ++ function) ∧
      ¬ "::".toList <:+: function.toList ∧
      (function = closureName → left = closureName) := by
  refine ⟨fun scope name depth plain other => ?_, fun path => ⟨existsUnique_strips path, ?_⟩⟩
  · have last := lastSegment_pathOf scope plain
    have done : ¬ closureSign.toList <:+ (pathOf scope name).toList :=
      not_sign_suffix last (by decide) (by decide) other
    have found : ∀ path, Strips path (pathOf scope name) →
        ofTypePath file line path = ⟨file, line, name⟩ := by
      intro path strips
      rw [ofTypePath, strips.function, last, String.ofList_toList]
    refine ⟨found _ ⟨_, depth, .inl rfl, rfl, done⟩, fun told => ?_⟩
    exact found _ ⟨_, depth, .inr ⟨rfl, not_markerSign_suffix last told⟩, rfl, done⟩
  · exact fun left strips => ⟨strips.cut, strips.not_doubleColon, strips.eq_closureName⟩

end ThrowSite

end StagedBuild
