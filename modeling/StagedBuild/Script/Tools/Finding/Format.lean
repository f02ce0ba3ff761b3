import StagedBuild.Calendar.Format
import StagedBuild.Script.Numeral
import StagedBuild.Script.Tools.Finding.Expression
import StagedBuild.Script.Tools.Listing

/-!
# What is printed of files

A format is text with parts for which properties of a file are put.
-/

namespace StagedBuild.Script.Tools.Finding

open Process

/-- A file that was found, and where. -/
structure Found where
  path : String
  /-- The argument that it was found below, and how deep. -/
  top : String
  depth : Nat
  node : NodeId
  /-- What it is itself, if a link was followed. -/
  link : NodeId

/-- Letters behind a backslash with what they stand for. -/
def escapes : List (Char × String) :=
  [('a', "\x07"), ('b', "\x08"), ('f', "\x0c"), ('n', "\n"), ('r', "\r"), ('t', "\t"),
   ('v', "\x0b"), ('\\', "\\")]

/-- Adds text to pieces. -/
def addText (text : String) : List Piece → List Piece
  | .text rest :: pieces => .text (text ++ rest) :: pieces
  | pieces => .text text :: pieces

/-- The letters of properties; some have a second letter. -/
def partLetters : List Char := "abcdDfFgGhHiklmMnpPsStuUyY".toList
@[inherit_doc partLetters] def doubleLetters : List Char := "ABCT".toList

/-- What a format says, with warnings about what it says wrong. -/
def readFormat : (count : Nat) → List Char → Except String (List Piece × List String)
  | _, [] => .ok ([], [])
  | 0, _ => .ok ([], [])
  | count + 1, '\\' :: rest =>
    match rest with
    | 'c' :: _ => .ok ([.stop], [])
    | [] => do
      return ([.text "\\"], ["warning: escape `\\' followed by nothing at all"])
    | c :: after =>
      let digits := (rest.take 3).takeWhile (Numeral.isDigitIn 8)
      if !digits.isEmpty then do
        let (pieces, warnings) ← readFormat count (rest.drop digits.length)
        let char := Char.ofNat (Numeral.ofDigits 8 digits % 256)
        return (addText char.toString pieces, warnings)
      else match escapes.lookup c with
        | some text => do
          let (pieces, warnings) ← readFormat count after
          return (addText text pieces, warnings)
        | none => do
          let (pieces, warnings) ← readFormat count after
          return (addText ("\\" ++ c.toString) pieces,
            ("warning: unrecognized escape `\\" ++ c.toString ++ "'") :: warnings)
  | count + 1, '%' :: rest =>
    let signs := rest.takeWhile fun c => "-+ #0".contains c
    let afterSigns := rest.drop signs.length
    let width := afterSigns.takeWhile Char.isDigit
    let afterWidth := afterSigns.drop width.length
    let (most, after) := match afterWidth with
      | '.' :: digits =>
        let found := digits.takeWhile Char.isDigit
        (some (Numeral.ofDigits 10 found), digits.drop found.length)
      | _ => (none, afterWidth)
    let part (letter : Char) (detail : Option Char) : Piece :=
      .part (signs.contains '-') (signs.contains '0') (signs.contains '#')
        (Numeral.ofDigits 10 width) most letter detail
    match after with
    | [] => .error "error: % at end of format string"
    | '%' :: after => do
      let (pieces, warnings) ← readFormat count after
      return (addText "%" pieces, warnings)
    | letter :: after =>
      if partLetters.contains letter then do
        let (pieces, warnings) ← readFormat count after
        return (part letter none :: pieces, warnings)
      else if doubleLetters.contains letter then
        match after with
        | detail :: after => do
          let (pieces, warnings) ← readFormat count after
          return (part letter (some detail) :: pieces, warnings)
        | [] => .ok ([.text ("%" ++ letter.toString)],
            ["warning: format directive `%" ++ letter.toString ++
              "' should be followed by another character"])
      else do
        let (pieces, warnings) ← readFormat count after
        let shown := "%" ++ String.ofList (rest.take (rest.length - after.length))
        return (addText shown pieces,
          ("warning: unrecognized format directive `%" ++ letter.toString ++ "'") :: warnings)
  | count + 1, c :: rest => do
    let (pieces, warnings) ← readFormat count rest
    return (addText c.toString pieces, warnings)

/-- The path without what the last name in it is, and that name. -/
def cutPath (path : String) : String × String :=
  let chars := (path.toList.reverse.dropWhile (· == '/')).reverse
  if chars.isEmpty then ("", path)
  else
    let name := (chars.reverse.takeWhile (· != '/')).reverse
    let dir := chars.take (chars.length - name.length - 1)
    let hasSlash := name.length < chars.length
    (if hasSlash then String.ofList dir else ".", String.ofList name)

/-- The tenths of billionths of a second of a time. -/
def fraction (time : Int) : String :=
  let nanos := (time - time.fdiv Calendar.billion * Calendar.billion).toNat
  "." ++ String.ofList ((Nat.toDigits 10 (10000000000 + nanos * 10)).drop 1)

/-- The time of a change in a format that a letter stands for. -/
def timePart (time : Int) (detail : Char) : String :=
  let moment := Moment.ofNanos time
  match detail with
  | '@' => toString (time.fdiv Calendar.billion) ++ fraction time
  | '+' => moment.inFormat "%Y-%m-%d+%H:%M:%S" ++ fraction time
  | 'S' | 'T' | 'X' => moment.inFormat ("%" ++ detail.toString) ++ fraction time
  | _ =>
    if "aAbBcdDFhHIjklmMprSTUwWxXyYZsGgeVCuRnN".contains detail then
      moment.inFormat ("%" ++ detail.toString)
    else "%" ++ detail.toString

/-- The time of a change as it is usually written. -/
def usualTime (time : Int) : String :=
  let moment := Moment.ofNanos time
  moment.inFormat "%a %b %e %H:%M:%S" ++ fraction time ++ moment.inFormat " %Y"

/-- The letter of a kind of file. -/
def kindLetter (tree : FileTree) (node : NodeId) : Char :=
  match (Listing.letterOf tree node).1 with
  | '-' => 'f'
  | letter => letter

/-- The letter of the kind of file that is found across links. -/
def kindAcross (tree : FileTree) (dir : NodeId) (found : Found) : Char :=
  match tree.find dir found.path with
  | .ok node => kindLetter tree node
  | .error .tooManyLinks => 'L'
  | .error _ => 'N'

/-- A property of a file by its letter. -/
def partText (tree : FileTree) (dir : NodeId) (found : Found) (isOctal : Bool) (letter : Char)
    (detail : Option Char) : String :=
  let node := tree.node found.node
  let (above, name) := cutPath found.path
  match letter with
  | 'p' => found.path
  | 'f' =>
    let slashes := found.path.toList.reverse.takeWhile (· == '/')
    if slashes.length = found.path.length then name else name ++ String.ofList slashes
  | 'h' => above
  | 'H' => found.top
  | 'P' =>
    let rest := found.path.toList.drop found.top.length
    String.ofList (if rest.head? == some '/' then rest.drop 1 else rest)
  | 'd' => toString found.depth
  | 's' => toString (Listing.sizeIn tree found.node)
  | 'k' => toString (Listing.blocksIn tree found.node)
  | 'b' => toString (2 * Listing.blocksIn tree found.node)
  | 'y' => (kindLetter tree found.node).toString
  | 'Y' => (kindAcross tree dir found).toString
  | 'm' =>
    (if isOctal then "0" else "") ++ String.ofList (Nat.toDigits 8 (node.rights &&& allRights))
  | 'M' => (Listing.letterOf tree found.node).1.toString ++ rightsText node.rights
  | 'l' => (tree.link? found.node).getD ""
  | 'n' => toString node.names
  | 'i' => toString (found.node + 2)
  | 'u' | 'g' => "root"
  | 'U' | 'G' => "0"
  | 'D' => "2049"
  | 'F' => "ext4"
  | 'S' => "1"
  | 'a' | 'c' | 't' => usualTime node.changed
  | _ => timePart node.changed (detail.getD '@')

/-- The letters of properties that are numbers. -/
def isNumber (letter : Char) : Bool := "dskbmniUGD".contains letter

/-- A file as pieces of a format say, and whether it ends early. -/
def shown (tree : FileTree) (dir : NodeId) (found : Found) : List Piece → String
  | [] | .stop :: _ => ""
  | .text text :: pieces => text ++ shown tree dir found pieces
  | .part leftward zeros isOctal width most letter detail :: pieces =>
    let text := partText tree dir found isOctal letter detail
    let text := match most with
      | some most => if isNumber letter then text else (text.take most).toString
      | none => text
    let fill := List.replicate (width - text.length) (if zeros && isNumber letter then '0' else ' ')
    (if leftward then text ++ String.ofList (fill.map fun _ => ' ')
      else String.ofList fill ++ text) ++ shown tree dir found pieces

end StagedBuild.Script.Tools.Finding
