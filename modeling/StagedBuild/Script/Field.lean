import StagedBuild.FileTree
import StagedBuild.Script.Pattern
import StagedBuild.Text.Octets

/-!
# Fields

A word becomes pieces when what stands in it is replaced. The pieces are cut into fields where
separators stand in values that were not quoted, and a field that is a pattern becomes the paths
that it matches.
-/

namespace StagedBuild.Script

/-- A piece of a word in which everything has been replaced. -/
inductive Piece where
  /-- A character, which separates fields if it `splits` and is a separator. -/
  | glyph (glyph : Glyph) (splits : Bool)
  /-- The end of an argument among all arguments. -/
  | cut
  /-- Makes a field count, even if it is empty. -/
  | hold
  /-- The start of a value that is looked through for separators, or of all arguments, which keep
  their ends. -/
  | seam (keeps : Bool)
  deriving DecidableEq, Repr

namespace Piece

/-- Stands between the arguments in the value of all arguments. No text holds it. -/
def mark : Char := Char.ofNat 0

/-- The pieces of a text. -/
def ofText (literal splits : Bool) (text : String) : List Piece :=
  text.toList.map fun char => if char = mark then .cut else .glyph { char, literal } splits

/-- The characters of pieces. -/
def pattern (pieces : List Piece) : Pattern :=
  pieces.filterMap fun
    | .glyph found _ => some found
    | _ => none

/-- The text of pieces that are not cut into fields. -/
def text (pieces : List Piece) : String :=
  Pattern.text (pattern pieces)

/-- Fields that are being cut. -/
structure Cutting where
  /-- The fields that are complete, in reverse. -/
  complete : List Pattern := []
  /-- The field that grows, in reverse. -/
  growing : Pattern := []
  /-- The field that grows counts even if it is empty. -/
  held : Bool := false
  /-- The last piece was white space that ended a field. -/
  afterSpace : Bool := false
  /-- We are in a value whose parts keep their ends. -/
  keeping : Bool := false
  /-- We are in the value behind such a one. -/
  afterKeeping : Bool := false

namespace Cutting

/-- Nothing of the growing field has been seen yet. -/
def atStart (cutting : Cutting) : Bool :=
  cutting.growing.isEmpty && !cutting.held

/-- Ends the growing field. -/
def close (cutting : Cutting) : Cutting :=
  { cutting with
    complete := cutting.growing.reverse :: cutting.complete
    growing := []
    held := false
    afterSpace := false }

/-- Takes a separator. White space around another separator belongs to it, and white space in
front of a field is passed over, except where ends are kept. -/
def separate (isSpace : Bool) (cutting : Cutting) : Cutting :=
  if cutting.afterSpace then { cutting with afterSpace := isSpace }
  else
    let isSpace := isSpace && !cutting.keeping && !cutting.afterKeeping
    if isSpace && cutting.atStart then cutting else { cutting.close with afterSpace := isSpace }

/-- Takes a piece. -/
def step (separators : String) (cutting : Cutting) : Piece → Cutting
  | .hold => { cutting with held := true, afterSpace := false }
  | .cut => cutting.separate true
  | .seam keeps =>
    { cutting with afterSpace := false, keeping := keeps, afterKeeping := cutting.keeping }
  | .glyph found splits =>
    if splits && separators.contains found.char then
      cutting.separate ([' ', '\t', '\n'].contains found.char)
    else { cutting with growing := found :: cutting.growing, afterSpace := false }

/-- The fields, the growing one too if it counts. -/
def fields (cutting : Cutting) : List Pattern :=
  (if cutting.atStart && !cutting.keeping then cutting else cutting.close).complete.reverse

end Cutting

/-- The fields that pieces are cut into. -/
def fields (separators : String) (pieces : List Piece) : List Pattern :=
  (pieces.foldl (Cutting.step separators) {}).fields

end Piece

namespace Pattern

/-- The parts of a pattern between slashes. -/
def components : Pattern → List Pattern
  | [] => [[]]
  | glyph :: rest =>
    if glyph.char = '/' then [] :: components rest
    else match components rest with
      | [] => [[glyph]]
      | first :: more => (glyph :: first) :: more

/-- The names in a directory that fit a pattern. Names that start with a point are only for
patterns that do so too. -/
def names (tree : FileTree) (dir : NodeId) (before : String) (pattern : Pattern) : List String :=
  match tree.find dir (if before.isEmpty then "." else before) with
  | .ok id =>
    let hidden := (pattern.head?.map (·.char)) == some '.'
    let dots := if hidden && tree.isDirectory id then [".", ".."] else []
    let steps := steps (pattern.length + 1) pattern
    (dots ++ tree.children id).filter fun name =>
      (hidden || !name.startsWith ".") && fits steps name.toList
  | .error _ => []

/-- The paths that fit the components of a pattern, with what stands before them. -/
def pathsFrom (tree : FileTree) (dir : NodeId) : (before : String) → List Pattern → List String
  | _, [] => []
  | before, [last] =>
    if last.hasSigns then (names tree dir before last).map (before ++ ·)
    else
      let path := before ++ String.ofList last.plainText
      if (tree.find dir path false).toOption.isSome then [path] else []
  | before, first :: rest =>
    if first.hasSigns then
      (names tree dir before first).flatMap fun name =>
        pathsFrom tree dir (before ++ name ++ "/") rest
    else pathsFrom tree dir (before ++ String.ofList first.plainText ++ "/") rest

/-- The paths that a pattern matches, in order; without any, its own text. -/
def paths (tree : FileTree) (dir : NodeId) (pattern : Pattern) : List String :=
  if !pattern.hasSigns then [pattern.text]
  else match pathsFrom tree dir "" pattern.components with
    | [] => [pattern.text]
    | found => found.mergeSort fun a b => a ≤ b

end Pattern

end StagedBuild.Script
