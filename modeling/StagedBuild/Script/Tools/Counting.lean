import StagedBuild.Script.Tools.Input
import StagedBuild.Script.Tools.Showing
import StagedBuild.Text.Blank
import StagedBuild.Text.Width

/-!
# Counting

Lines, words, characters and bytes of files, and the greatest width of their lines.
-/

namespace StagedBuild.Script.Tools

open Process

/-- What is counted in a text. -/
structure Counts where
  lines : Nat := 0
  words : Nat := 0
  chars : Nat := 0
  bytes : Nat := 0
  width : Nat := 0

/-- What is counted of two texts. -/
def Counts.add (a b : Counts) : Counts :=
  ⟨a.lines + b.lines, a.words + b.words, a.chars + b.chars, a.bytes + b.bytes, max a.width b.width⟩

/-- How far a text has been counted. -/
structure Counting where
  counts : Counts := {}
  /-- We are inside a word. -/
  inWord : Bool := false
  column : Nat := 0

/-- A blank that divides words. Those that keep words together are no blanks here, although they
divide them too. -/
def dividesWords (c : Char) : Bool :=
  Text.isBlank c && c != '\x85' || c == '\u2060'

/-- Counts one more character. -/
def Counting.add (counting : Counting) (spelt : Text.Spelt) : Counting :=
  let counts := counting.counts
  let counts := { counts with
    bytes := counts.bytes + spelt.octets.length
    chars := counts.chars + (if spelt.char.isSome then 1 else 0) }
  match spelt.char with
  | none => { counting with counts }
  | some c =>
    let column := match c with
      | '\n' | '\r' | '\x0c' => 0
      | '\t' => counting.column + 8 - counting.column % 8
      | '\x0b' => counting.column
      | c => counting.column + Text.width c
    let counts := { counts with
      lines := counts.lines + (if c == '\n' then 1 else 0), width := max counts.width column }
    if dividesWords c then ⟨counts, false, column⟩
    else if Text.isPrintable c then
      ⟨{ counts with words := counts.words + (if counting.inWord then 0 else 1) }, true, column⟩
    else { counting with counts, column }

/-- The counts that options ask for, in the order in which they are shown. -/
def countsShown (given : Given) (counts : Counts) : List Nat :=
  let all := [("l", counts.lines), ("w", counts.words), ("m", counts.chars), ("c", counts.bytes),
    ("L", counts.width)]
  let asked := all.filter fun (key, _) => given.has key
  if asked.isEmpty then [counts.lines, counts.words, counts.bytes] else asked.map (·.2)

/-- How wide the counts of files are shown: as wide as the sum of their sizes, and wider if there
are others than plain files. -/
def countWidth (paths : List String) : Act Nat := do
  let found ← paths.mapM fun path => do
    if path = "-" then
      match ← Act.channel? 0 with
      | none => return (0, false)
      | some _ =>
        match ← fileOf? 0 with
        | some (node, _) => return (← sizeOf node, false)
        | none => return (0, true)
    else match ← Act.find path with
      | .error _ => return (0, false)
      | .ok node => Act.viewTree fun tree _ => match tree.content node with
        | .file bytes => (bytes.size, false)
        | _ => (0, true)
  let total := found.foldl (fun sum (size, _) => sum + size) 0
  return max (toString total).length (if found.any (·.2) then 7 else 1)

/-- Counts lines, words and bytes. -/
def wc : Tool := withOptions ("c,bytes m,chars l,lines w,words ,files0-from= L,max-line-length")
    fun given files call => do
  let named ← match given.value? "files0-from" with
    | none => pure files
    | some list =>
      if let some file := files.head? then
        call.dismiss ("extra operand " ++ call.path file ++
          "\nfile operands cannot be combined with --files0-from")
      match ← readInput list with
      | .ok text => pure ((linesOf '\x00' text).map fun name => (withoutStop '\x00' name).1)
      | .error e =>
        call.giveUp ("cannot open " ++ call.path list ++ " for reading: " ++ e.description)
  let paths := inputs named
  let isSingle := paths.length == 1 && (countsShown given {}).length == 1
  let isListed ← (match given.value? "files0-from" with
    | none => return true
    | some "-" => return (← fileOf? 0).isSome
    | some _ => return true : Act Bool)
  let width ← if isSingle || !isListed then pure 1 else countWidth paths
  let line (counts : Counts) (path : String) : String :=
    let shown := (countsShown given counts).map fun count => padLeft width (toString count)
    " ".intercalate shown ++ (if path.isEmpty then "" else " " ++ path) ++ "\n"
  let read (path : String) (descriptor : Nat) (state : Counts × Nat) :
      Act (Progress (Counts × Nat)) := do
    let (counting, problem) ← overLines descriptor '\n' (fun counting lines =>
      return .yield (lines.foldl (fun counting line =>
        (call.charset.spelt line.toList).foldl Counting.add counting) counting))
      Act.maxRounds "" ({} : Counting)
    if let some e := problem then
      call.complain (call.plainPath (title path) ++ ": " ++ e.description)
    call.print (line counting.counts (if named.isEmpty then "" else call.plainPath path))
    return ((state.1.add counting.counts, if problem.isSome then 1 else state.2), none)
  let ((total, status), failure) ← overInputs call {} read paths ({}, 0)
  if status != 0 && paths.contains "-" && (← Act.channel? 0).isNone then
    call.complain "-: Bad file descriptor"
  if 1 < paths.length then call.print (line total "total")
  return max status failure

end StagedBuild.Script.Tools
