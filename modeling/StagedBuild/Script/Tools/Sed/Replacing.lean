import StagedBuild.Regex.Match
import StagedBuild.Script.Tools.Sed.Program

/-!
# Replacing matches

What matches an expression in a line is replaced by text with groups of the match, in other cases of
letters if that is asked for. An empty match right behind another one does not count.
-/

namespace StagedBuild.Script.Tools.Sed

open StagedBuild.Text

/-- A text unit in another case. -/
def recaseUnit (case : Case) (unit : Spelt) : String :=
  match case, unit.char with
  | .upper, some c => Octets.ofText (toCapital c).toString
  | .lower, some c => Octets.ofText (toSmall c).toString
  | _, _ => unit.octets

/-- Text in another case, and its first character in one of its own. -/
def recase (charset : Charset) (case : Case) (first : Option Case) (text : String) : String :=
  match case, first with
  | .asIs, none => text
  | _, _ =>
    String.join ((charset.spelt text.toList).zipIdx.map fun (unit, i) =>
      recaseUnit (if i = 0 then first.getD case else case) unit)

/-- How far a replacement has been put together. -/
structure Recasing where
  text : String := ""
  case : Case := .asIs
  /-- The case of the next character. -/
  first : Option Case := none
  /-- An empty group has passed that case on, which happens only once. -/
  passedOn : Bool := false

/-- The text that pieces stand for, with the groups of a match. -/
def filledIn (charset : Charset) (group : (number : Nat) → String) (pieces : List Piece) :
    String :=
  (pieces.foldl (fun found piece => match piece with
    | .case case => { found with case, first := none, passedOn := false }
    | .nextCase case => { found with first := some case, passedOn := false }
    | .text text => { found with
        text := found.text ++ recase charset found.case found.first text
        first := none, passedOn := false }
    | .group number =>
      let text := group number
      if text.isEmpty then
        if found.passedOn then { found with first := none, passedOn := false }
        else { found with passedOn := found.first.isSome }
      else { found with
        text := found.text ++ recase charset found.case found.first text
        first := none, passedOn := false }) ({} : Recasing)).text

/-- Replaces matches from a place on, behind one that ended at `previous`, when `count` of them have
been passed over: the text from there on, or nothing if there is nothing to replace. -/
def replaceFrom (charset : Charset) (substitution : Substitution) (search : Regex.Search) :
    (rounds : Nat) → (start : Nat) → (previous : Option Nat) → (count : Nat) → Option String
  | 0, _, _, _ => none
  | rounds + 1, start, previous, count =>
    if search.size < start then none
    else match search.from? start with
      | none => none
      | some found =>
        let before := search.text start found.start
        let isEmpty := found.stop = found.start
        let next := if isEmpty then found.stop + 1 else found.stop
        let passed := search.text found.stop next
        let go (previous : Option Nat) (count : Nat) : Option String :=
          replaceFrom charset substitution search rounds next previous count
        if isEmpty ∧ previous = some found.start then
          (go none count).map fun rest => before ++ passed ++ rest
        else if count + 1 < substitution.first then
          (go (some found.stop) (count + 1)).map fun rest =>
            before ++ search.text found.start found.stop ++ passed ++ rest
        else
          let text := filledIn charset (search.groupText found) substitution.pieces
          let rest := if substitution.all then go (some found.stop) (count + 1) else none
          some (before ++ text ++ passed ++ rest.getD (search.text next search.size))

/-- A text with matches of an expression replaced, if there is anything to replace. -/
def replaced? (regex : Regex) (substitution : Substitution) (text : String) : Option String :=
  let search := regex.searchIn text
  replaceFrom regex.charset substitution search (search.size + 2) 0 none 0

end StagedBuild.Script.Tools.Sed
