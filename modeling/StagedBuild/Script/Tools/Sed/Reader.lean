import StagedBuild.Regex.Reader
import StagedBuild.Script.Tools.Sed.Escapes

/-!
# Reading programs for streams

A program is read from one or more sources: arguments, or files. Commands end with their line, or
before a semicolon or a closing brace if they do not take the rest of the line as text.
-/

namespace StagedBuild.Script.Tools.Sed

open StagedBuild.Text

/-- Where a part of a program comes from: an argument by its number, or a file. -/
inductive Origin where
  | argument (number : Nat)
  | file (path : String)
  deriving DecidableEq, Repr

/-- A part of a program. -/
structure Source where
  origin : Origin
  text : List Char

/-- How programs are read. -/
structure Manner where
  charset : Charset
  extended : Bool := false
  /-- Commands that work on files or start others are refused. -/
  enclosed : Bool := false

/-- What has been read of a program. -/
structure Draft where
  program : Program := {}
  /-- The places of blocks that are still open, the innermost first. -/
  blocks : List Nat := []

/-- What is left of a part of a program, and how much of it has been read. -/
structure Cursor where
  origin : Origin
  rest : List Char
  read : Nat := 0
  line : Nat := 1
  draft : Draft := {}

/-- Something that is read from a part of a program; what is wrong with it says where. -/
abbrev Reader (α : Type) := StateT Cursor (Except String) α

namespace Reader

/-- Where a cursor is. -/
def placeText (cursor : Cursor) : String :=
  match cursor.origin with
  | .argument number =>
    "-e expression #" ++ toString number ++ ", char " ++ toString cursor.read ++ ": "
  | .file path => "file " ++ path ++ " line " ++ toString cursor.line ++ ": "

/-- Refuses the program. -/
def refuse {α : Type} (problem : String) : Reader α := fun cursor =>
  .error (placeText cursor ++ problem)

/-- What comes next. -/
def peek : Reader (Option Char) := return (← get).rest.head?

/-- Takes the next character. -/
def next : Reader (Option Char) := modifyGet fun cursor =>
  match cursor.rest with
  | c :: rest => (some c, { cursor with
      rest, read := cursor.read + 1, line := cursor.line + (if c = '\n' then 1 else 0) })
  | [] => (none, cursor)

/-- Goes on to where this rest is left. -/
def goTo (rest : List Char) : Reader Unit := modify fun cursor =>
  let passed := cursor.rest.take (cursor.rest.length - rest.length)
  { cursor with
    rest, read := cursor.read + passed.length
    line := cursor.line + (passed.filter (· == '\n')).length }

/-- Passes over characters. -/
def skip (isSkipped : Char → Bool) : Reader Unit := do
  goTo ((← get).rest.dropWhile isSkipped)

/-- A blank inside of a line. -/
def isBlank (c : Char) : Bool := c == ' ' || c == '\t'

/-- The next character that is no blank. -/
def nextSolid : Reader (Option Char) := do
  skip isBlank
  next

/-- A number; zero if there is none. -/
def number : Reader Nat := do
  let digits := (← get).rest.takeWhile Char.isDigit
  skip Char.isDigit
  return Numeral.ofDigits 10 digits

/-- A text up to a delimiter. -/
def delimited (delimiter : Char) (isExpression : Bool) (problem : String) :
    Reader (List Char) := do
  let rest := (← get).rest
  match delimited? delimiter isExpression .outside rest with
  | some (text, rest) =>
    goTo rest
    return text
  | none =>
    skip (· != '\n')
    refuse problem

/-- Newlines do not count as any character. -/
def apartFromNewlines : Regex.One → Regex.One
  | .any => .listed true [.char "\n"]
  | .listed true items => .listed true (.char "\n" :: items)
  | one => one

/-- The expression that a text denotes. -/
def sample (manner : Manner) (text : List Char) (ignoresCase byLines : Bool)
    (groups : Nat) : Reader Sample := do
  if text.isEmpty then
    if ignoresCase || byLines then refuse "cannot specify modifiers on empty regexp"
    return none
  let text ← match unescaped true text.length text with
    | .ok text => pure (String.ofList text)
    | .error problem => refuse problem
  let dialect := if manner.extended then Regex.Dialect.full else .basic
  match Regex.read dialect manner.charset text with
  | .error problem => refuse problem.message
  | .ok parsed =>
    if parsed.groups < groups then
      refuse ("invalid reference \\" ++ toString groups ++ " on `s' command's RHS")
    let expr := if byLines then parsed.expr.map apartFromNewlines id else parsed.expr
    return some ⟨expr, manner.charset, ignoresCase, byLines⟩

/-- Letters behind an expression that selects lines. -/
def addressFlags (manner : Manner) (text : List Char) : (count : Nat) →
    (ignoresCase byLines : Bool) → Reader Address
  | 0, ignoresCase, byLines => return .fitting (← sample manner text ignoresCase byLines 0)
  | count + 1, ignoresCase, byLines => do
    skip isBlank
    match ← peek with
    | some 'I' => do
      let _ ← next
      addressFlags manner text count true byLines
    | some 'M' => do
      let _ ← next
      addressFlags manner text count ignoresCase true
    | _ => return .fitting (← sample manner text ignoresCase byLines 0)

/-- An address, if there is one. -/
def address? (manner : Manner) : Reader (Option Address) := do
  let expression (delimiter : Char) : Reader (Option Address) := do
    let text ← delimited delimiter true "unterminated address regex"
    return some (← addressFlags manner text (← get).rest.length false false)
  match ← peek with
  | some '/' => do
    let _ ← next
    expression '/'
  | some '\\' => do
    let _ ← next
    match ← next with
    | some c => expression c
    | none => refuse "unterminated address regex"
  | some '$' => do
    let _ ← next
    return some .last
  | some '+' => do
    let _ ← next
    skip isBlank
    return some (.further (← number))
  | some '~' => do
    let _ ← next
    skip isBlank
    return some (.multiple (← number))
  | some c =>
    if !c.isDigit then return none
    else do
      let first ← number
      skip isBlank
      if (← peek) != some '~' then return some (.line first)
      let _ ← next
      skip isBlank
      let step ← number
      return some (if step = 0 then .line first else .every first step)
  | none => return none

/-- The end of a command. -/
def commandEnd : Reader Unit := do
  skip isBlank
  match ← peek with
  | none | some '\x7d' | some '#' => return
  | some '\n' | some ';' => do
    let _ ← next
    return
  | _ => do
    let _ ← next
    refuse "extra characters after command"

/-- A label. -/
def label : Reader String := do
  skip isBlank
  let isPart (c : Char) : Bool := !(Numeral.isSpace c || c == ';' || c == '\x7d')
  let found := (← get).rest.takeWhile isPart
  skip isPart
  return String.ofList found

/-- The rest of the line as the name of a file. -/
def path : Reader String := do
  skip isBlank
  let found := (← get).rest.takeWhile (· != '\n')
  skip (· != '\n')
  let _ ← next
  if found.isEmpty then refuse "missing filename in r/R/w/W commands"
  return String.ofList found

/-- A file to write to. -/
def target : Reader Target := do
  let path ← path
  match path with
  | "/dev/stdout" => return .output
  | "/dev/stderr" => return .errors
  | _ =>
    let cursor ← get
    let program := cursor.draft.program
    match program.files.findIdx? (· == path) with
    | some place => return .file place
    | none =>
      set { cursor with
        draft.program := { program with files := program.files ++ [path] } }
      return .file program.files.length

/-- A text up to the end of a line that does not end in a backslash, and what follows it. -/
def textLines : List Char → List Char × List Char
  | [] => ([], [])
  | '\n' :: rest => ([], rest)
  | ['\\'] => ([], [])
  | '\\' :: c :: rest => keep ['\\', c] (textLines rest)
  | c :: rest => keep [c] (textLines rest)

/-- The text of a command that prints it: behind the command, or from the next line on. -/
def text : Reader String := do
  skip isBlank
  if (← get).rest.isEmpty then refuse "expected \\ after `a', `c' or `i'"
  let mut isEmpty := false
  if (← peek) == some '\\' then
    let _ ← next
    let blanks := (← get).rest.takeWhile isBlank
    match ((← get).rest.drop blanks.length).head? with
    | some '\n' => do
      skip isBlank
      let _ ← next
    | some _ => pure ()
    | none => do
      skip isBlank
      isEmpty := true
  let (found, rest) := textLines (← get).rest
  goTo rest
  if isEmpty then return ""
  match unescaped false found.length found with
  | .ok found => return String.ofList found ++ "\n"
  | .error problem => refuse problem

/-- What has been read of the options of a substitution. -/
structure Options where
  substitution : Substitution
  count : Option Nat := none
  ignoresCase : Bool := false
  byLines : Bool := false

/-- The options behind a substitution. -/
def options : (count : Nat) → Options → Reader Options
  | 0, found => return found
  | count + 1, found => do
    let substitution := found.substitution
    match ← peek with
    | none | some '\x7d' | some '#' => return found
    | some c => do
      let _ ← next
      match c with
      | '\n' | ';' => return found
      | ' ' | '\t' | '\r' => options count found
      | 'i' | 'I' => options count { found with ignoresCase := true }
      | 'm' | 'M' => options count { found with byLines := true }
      | 'e' => options count { found with substitution := { substitution with runs := true } }
      | 'p' =>
        if substitution.prints || substitution.printsFirst then
          refuse "multiple `p' options to `s' command"
        options count { found with substitution := { substitution with
          prints := true, printsFirst := !substitution.runs } }
      | 'g' =>
        if substitution.all then refuse "multiple `g' options to `s' command"
        options count { found with substitution := { substitution with all := true } }
      | 'w' => return { found with substitution := { substitution with
          target := some (← target) } }
      | _ =>
        if !c.isDigit then refuse "unknown option to `s'"
        if found.count.isSome then refuse "multiple number options to `s' command"
        let digits := (← get).rest.takeWhile Char.isDigit
        skip Char.isDigit
        let first := Numeral.ofDigits 10 (c :: digits)
        if first = 0 then refuse "number option to `s' command may not be zero"
        options count { found with
          count := some first, substitution := { substitution with first } }

/-- What a command replaces, and by what. -/
def substitution (manner : Manner) : Reader Action := do
  let problem := "unterminated `s' command"
  let some delimiter ← next | refuse problem
  if delimiter = '\n' || delimiter = '\\' then refuse problem
  let expression ← delimited delimiter true problem
  let replaced ← delimited delimiter false problem
  let pieces ← match replacement replaced.length replaced with
    | .ok pieces => pure pieces
    | .error problem => refuse problem
  let found ← options ((← get).rest.length + 1) { substitution := { sample := none, pieces } }
  let sample ← sample manner expression found.ignoresCase found.byLines (greatestGroup pieces)
  let substitution := { found.substitution with sample }
  return .substitute { substitution with
    printsFirst := substitution.prints && substitution.printsFirst && substitution.runs }

/-- Characters that are replaced one by one. -/
def translation (manner : Manner) : Reader Action := do
  let problem := "unterminated `y' command"
  let some delimiter ← next | refuse problem
  let sources ← delimited delimiter false problem
  let targets ← delimited delimiter false problem
  let units (text : List Char) : Reader (List String) := do
    match unescaped false text.length text with
    | .ok text => return (manner.charset.spelt text).map (·.octets)
    | .error problem => refuse problem
  let sources ← units sources
  let targets ← units targets
  if sources.length ≠ targets.length then
    refuse "strings for `y' command are different lengths"
  commandEnd
  return .translate (sources.zip targets)

/-- A number behind a command, and its end. -/
def argument : Reader (Option Nat) := do
  skip isBlank
  let found ← if (← peek).any Char.isDigit then some <$> number else pure none
  commandEnd
  return found

/-- The action of a command that consists of a letter. -/
def simple? : Char → Option Action
  | '=' => some .number
  | 'd' => some .delete
  | 'D' => some .deleteFirst
  | 'F' => some .name
  | 'g' => some .get
  | 'G' => some .getAppend
  | 'h' => some .hold
  | 'H' => some .holdAppend
  | 'n' => some .next
  | 'N' => some .nextAppend
  | 'p' => some .print
  | 'P' => some .printFirst
  | 'z' => some .clear
  | 'x' => some .exchange
  | _ => none

/-- A label that a command branches to. -/
def branchTo : Reader String := do
  let label ← label
  commandEnd
  return label

/-- The action of a command by its letter. -/
def action (manner : Manner) (letter : Char) : Reader Action := do
  if manner.enclosed && "erRwW".contains letter then
    refuse "e/r/w commands disabled in sandbox mode"
  match simple? letter with
  | some action => do
    commandEnd
    return action
  | none =>
    match letter with
    | 'a' => return .append (← text)
    | 'i' => return .insert (← text)
    | 'c' => return .change (← text)
    | 'b' => return .branch (← branchTo)
    | 't' => return .branchIf (← branchTo)
    | 'T' => return .branchUnless (← branchTo)
    | 'e' => do
      skip isBlank
      let (found, rest) := textLines (← get).rest
      goTo rest
      return .run (String.ofList found)
    | 'l' => return .list (← argument)
    | 'q' => return .quit ((← argument).getD 0)
    | 'Q' => return .quitSilently ((← argument).getD 0)
    | 'r' => return .readFile (← path)
    | 'R' => return .readLine (← path)
    | 's' => substitution manner
    | 'w' => return .write (← target)
    | 'W' => return .writeFirst (← target)
    | 'y' => translation manner
    | _ => refuse ("unknown command: `" ++ letter.toString ++ "'")

/-- Adds a command to the program. -/
def add (command : Command) : Reader Unit := modify fun cursor =>
  let program := cursor.draft.program
  { cursor with draft.program := { program with commands := program.commands.push command } }

/-- Ends the innermost block. -/
def closeBlock (addressed : Bool) : Reader Unit := do
  let draft := (← get).draft
  match draft.blocks with
  | [] => refuse "unexpected `\x7d'"
  | place :: blocks => do
    if addressed then refuse "`\x7d' doesn't want any addresses"
    commandEnd
    modify fun cursor =>
      let program := cursor.draft.program
      let stop := program.commands.size
      let commands := program.commands.modify place fun command =>
        { command with action := .block stop }
      { cursor with draft := { cursor.draft with
        blocks, program := { program with commands } } }

/-- Reads the rest of a line that is not meant for the program. The first one may say that lines are
only printed on demand. -/
def comment (isFirst : Bool) : Reader Unit := do
  let cursor ← get
  let line := cursor.rest.takeWhile (· != '\n')
  skip (· != '\n')
  let isStart := isFirst && cursor.read = 1 && cursor.line = 1
  if isStart && line = ['n'] then
    modify fun cursor => { cursor with draft.program.silent := true }

/-- Reads one command; false at the end. -/
def command (manner : Manner) (isFirst : Bool) : Reader Bool := do
  skip fun c => c == ';' || Numeral.isSpace c
  if (← peek).isNone then return false
  let first ← address? manner
  match first with
  | some (.further _) | some (.multiple _) => refuse "invalid usage of +N or ~N as first address"
  | _ => pure ()
  if first.isSome then skip isBlank
  let second ← if first.isSome && (← peek) == some ',' then do
      let _ ← next
      skip isBlank
      match ← address? manner with
      | some second => pure (some second)
      | none => do
        let _ ← next
        refuse "unexpected `,'"
    else pure none
  let letter ← nextSolid
  match first, second with
  | some (.line 0), some (.fitting _) => pure ()
  | some (.line 0), _ => refuse "invalid usage of line address 0"
  | _, _ => pure ()
  let negated := letter == some '!'
  let letter ← if negated then nextSolid else pure letter
  match letter with
  | none => refuse "missing command"
  | some '!' => refuse "multiple `!'s"
  | some '#' => do
    if first.isSome then refuse "comments don't accept any addresses"
    comment isFirst
  | some ':' => do
    if first.isSome then refuse ": doesn't want any addresses"
    let label ← label
    if label.isEmpty then refuse "\":\" lacks a label"
    modify fun cursor =>
      let program := cursor.draft.program
      { cursor with draft.program := { program with
        labels := program.labels ++ [(label, program.commands.size)] } }
  | some '\x7b' => do
    let place := (← get).draft.program.commands.size
    modify fun cursor => { cursor with draft.blocks := place :: cursor.draft.blocks }
    add { first, second, negated, action := .block 0 }
  | some '\x7d' => closeBlock first.isSome
  | some 'v' => do
    let version ← label
    let numbers := (Text.splitOn '.' version.toList).map (Numeral.ofDigits 10)
    let isNewer := match numbers with
      | major :: minor :: _ => 4 < major || (major = 4 && 9 < minor)
      | [major] => 4 < major
      | [] => false
    if isNewer then refuse "expected newer version of sed"
  | some letter => do
    if second.isSome && (letter = 'q' || letter = 'Q') then
      refuse "command only uses one address"
    let action ← action manner letter
    add { first, second, negated, action }
  return true

/-- Reads all commands. -/
def commands (manner : Manner) (isFirst : Bool) : (count : Nat) → Reader Unit
  | 0 => return
  | count + 1 => do
    if ← command manner isFirst then commands manner isFirst count

end Reader

/-- Sources whose texts go on in the next one, because the text of a command ends in a backslash. -/
def joinSources : List Source → List Source
  | [] => []
  | source :: rest =>
    match joinSources rest with
    | [] => [source]
    | second :: others =>
      let lastLine := source.text.reverse.takeWhile (· != '\n')
      let backslashes := (lastLine.takeWhile (· == '\\')).length
      if backslashes % 2 = 1 then
        ⟨source.origin, source.text ++ '\n' :: second.text⟩ :: others
      else source :: second :: others

/-- The program that sources hold. -/
def Program.read (manner : Manner) (sources : List Source) : Except String Program := do
  let draft ← (joinSources sources).zipIdx.foldlM (fun draft (source, i) => do
    let cursor : Cursor := { origin := source.origin, rest := source.text, draft }
    let (_, cursor) ← (Reader.commands manner (i == 0) (source.text.length + 1)).run cursor
    return cursor.draft) {}
  if !draft.blocks.isEmpty then
    let last := (sources.filterMap fun source => match source.origin with
      | .argument number => some number
      | .file _ => none).getLastD 0
    match sources.getLast? with
    | some ⟨.file path, _⟩ => throw ("file " ++ path ++ " line 0: unmatched `\x7b'")
    | _ => throw ("-e expression #" ++ toString last ++ ", char 0: unmatched `\x7b'")
  return draft.program

end StagedBuild.Script.Tools.Sed
