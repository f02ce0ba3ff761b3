import StagedBuild.Script.Token

/-!
# Reading characters of scripts

A place in a script, and the steps that take characters from there. A backslash before the end of
a line joins two lines and is passed over.
-/

namespace StagedBuild.Script

/-- A here-document that has been named, and whose text is still to come. -/
structure Announced where
  number : Nat
  /-- The line that ends it. -/
  mark : String
  dropsTabs : Bool
  /-- Its text is kept as it is. -/
  verbatim : Bool
  deriving DecidableEq, Repr

/-- Why a script cannot be read further, and on which line. -/
structure SyntaxError where
  line : Nat
  message : String
  deriving DecidableEq, Repr

/-- The problem of a text from a line on. What is still open at its end has been looked for on the
line behind it, too. -/
def SyntaxError.behind (problem : SyntaxError) (line : Nat) (text : List Char) : SyntaxError :=
  let last := line + (text.filter (· == '\n')).length
  let tail := text.reverse.takeWhile (· != '\n')
  let opened := tail.contains '\x7b' || tail.contains '('
  let isMissing := problem.message.endsWith "Missing '\x7d'" ||
    problem.message.endsWith "Missing '))'"
  if problem.line = last && !opened && isMissing then
    { problem with line := last + 1 }
  else problem

/-- Text that was put in the place of a word. -/
structure Replacement where
  name : String
  /-- How many characters follow it. -/
  left : Nat
  /-- The word behind it may be replaced too. -/
  opens : Bool
  deriving DecidableEq, Repr

/-- A place in a script. -/
structure Cursor where
  rest : List Char
  line : Nat := 1
  /-- A token that was given back. -/
  token : Option Token := none
  announced : List Announced := []
  documents : Documents := []
  /-- The number of the next here-document. -/
  nextDocument : Nat := 0
  /-- The texts that words at the start of a command stand for. -/
  aliases : List (String × String) := []
  replacements : List Replacement := []
  /-- What is read is the text of a here-document. -/
  inDocument : Bool := false

/-- Reading from a place in a script. -/
abbrev Reader := StateT Cursor (Except SyntaxError)

namespace Reader

/-- Gives up. -/
def fail {α : Type} (message : String) : Reader α := do
  throw ⟨(← get).line, "Syntax error: " ++ message⟩

/-- A token stands where the grammar has no place for it. -/
def unexpected {α : Type} (token : Token) : Reader α :=
  fail (token.describe ++ " unexpected")

/-- A token stands where the grammar asks for another. -/
def mismatch {α : Type} (token expected : Token) : Reader α :=
  fail (token.describe ++ " unexpected (expecting " ++ expected.describe ++ ")")

/-- Passes over joined lines: how many, and what follows. -/
def passJoins : List Char → Nat × List Char
  | '\\' :: '\n' :: rest =>
    let (count, rest) := passJoins rest
    (count + 1, rest)
  | rest => (0, rest)

/-- The next character, after joined lines. -/
def look : Reader (Option Char) :=
  modifyGet fun cursor =>
    let (joins, rest) := passJoins cursor.rest
    (rest.head?, { cursor with rest, line := cursor.line + joins })

/-- Drops one character. -/
def skip : Reader Unit :=
  modify fun cursor => { cursor with rest := cursor.rest.tail }

/-- Takes the next character, after joined lines. -/
def take : Reader (Option Char) := do
  let c ← look
  skip
  return c

/-- Takes the next character as it stands. -/
def takeRaw : Reader (Option Char) :=
  modifyGet fun cursor => (cursor.rest.head?, { cursor with rest := cursor.rest.tail })

/-- Counts a line. -/
def countLine : Reader Unit :=
  modify fun cursor => { cursor with line := cursor.line + 1 }

/-- Gives a token back, to be taken again. -/
def giveBack (token : Token) : Reader Unit :=
  modify fun cursor => { cursor with token := some token }

/-- Takes characters as long as they may stand in a name, of which `name` has been read in reverse;
at most `count`. -/
def nameChars (accept : Char → Bool) : (count : Nat) → (name : List Char) → Reader String
  | 0, name => return String.ofList name.reverse
  | count + 1, name => do
    match ← look with
    | some c =>
      if accept c then
        skip
        nameChars accept count (c :: name)
      else return String.ofList name.reverse
    | none => return String.ofList name.reverse

/-- Takes all characters that may stand in a name. -/
def name (accept : Char → Bool) : Reader String := do
  nameChars accept ((← get).rest.length + 1) []

end Reader

/-- Pieces of a word that is being read: those complete, in reverse, and the characters of the
piece that may still grow, in reverse. -/
structure Gathering where
  complete : List Part := []
  growing : List Char := []
  quoted : Bool := false

namespace Gathering

/-- Completes the piece that grows. -/
def close (gathering : Gathering) : Gathering :=
  if gathering.growing.isEmpty then gathering
  else ⟨.text (String.ofList gathering.growing.reverse) gathering.quoted :: gathering.complete, [],
    false⟩

/-- Adds a character. -/
def add (gathering : Gathering) (c : Char) (quoted : Bool) : Gathering :=
  let gathering := if gathering.quoted == quoted then gathering else gathering.close
  { gathering with growing := c :: gathering.growing, quoted }

/-- Adds a piece. -/
def push (gathering : Gathering) (part : Part) : Gathering :=
  let gathering := gathering.close
  { gathering with complete := part :: gathering.complete }

/-- The pieces that were read. -/
def parts (gathering : Gathering) : List Part :=
  gathering.close.complete.reverse

end Gathering

end StagedBuild.Script
