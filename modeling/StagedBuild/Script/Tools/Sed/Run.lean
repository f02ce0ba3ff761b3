import StagedBuild.Script.Tools.Sed.Replacing
import StagedBuild.Script.Tools.Sed.Session

/-!
# Running programs on streams of lines

Every line is read into the space on which the commands work, and what the space holds at the end of
the program is printed.
-/

namespace StagedBuild.Script.Tools.Sed

open Process

/-- Where to go on after a command. -/
inductive Next where
  | onward
  | jump (place : Nat)
  /-- With the next line; the current one is printed first, or not. -/
  | nextLine (prints : Bool)
  /-- With the same line from the start. -/
  | again
  | stop (status : Nat)

namespace Edit

/-! ### Selecting lines -/

/-- The expression that is meant. -/
def regexOf (sample : Sample) : Edit Regex := do
  match sample <|> (← get).sample with
  | some regex =>
    modify fun session => { session with sample := some regex }
    return regex
  | none =>
    let setup ← read
    flush
    setup.call.complain (setup.place ++ "no previous regular expression")
    Act.exit 1

/-- The current line is at this address. -/
def isAt (address : Address) : Edit Bool := do
  let session ← get
  match address with
  | .line number => return session.number == number
  | .every first step =>
    return first ≤ session.number && (session.number - first) % step == 0
  | .last => isAtEnd
  | .fitting sample =>
    let regex ← regexOf sample
    return (regex.searchIn session.space.text).succeeds
  | .further _ | .multiple _ => return false

/-- Notes how far the range of a command is. -/
def setRange (place : Nat) (range : Range) : Edit Unit :=
  modify fun session => { session with ranges := session.ranges.setIfInBounds place range }

/-- Starts a range that ends at a line, and may end where it starts. -/
def startRange (place last : Nat) : Edit Unit := do
  let number := (← get).number
  setRange place (if last ≤ number then .closed else .active (some last))

/-- A range starts at the current line. -/
def startsRange (first : Address) (range : Range) : Edit Bool := do
  match first, range with
  | .line number, .idle => return number ≤ (← get).number
  | .line _, _ => return false
  | _, _ => isAt first

/-- The current line is selected by a command. -/
def isSelected (place : Nat) (command : Command) : Edit Bool := do
  let number := (← get).number
  let range := (← get).ranges.getD place .idle
  match command.first, command.second, range with
  | none, _, _ => return true
  | some first, none, _ => isAt first
  | some _, some _, .active (some last) =>
    if last ≤ number then setRange place .closed
    return number ≤ last
  | some _, some second, .active none =>
    if ← isAt second then setRange place .closed
    return true
  | some first, some second, range =>
    if !(← startsRange first range) then return false
    match second with
    | .line last =>
      startRange place last
      let isFirst := match first with
        | .line start => start == number
        | _ => true
      return isFirst || number ≤ last
    | .further count => startRange place (number + count)
    | .multiple count =>
      startRange place (if count = 0 then 0 else (number / count + 1) * count)
    | _ => setRange place (.active none)
    return true

/-! ### Commands -/

/-- Changes the space. -/
def setSpace (space : Space) : Edit Unit :=
  modify fun session => { session with space }

/-- The first line of the space, and what follows it. -/
def firstLine (space : Space) : Edit (Space × Option String) := do
  let stop := (← read).stop
  let chars := space.text.toList
  let first := chars.takeWhile (· != stop)
  if first.length = chars.length then return (space, none)
  return (⟨String.ofList first, true⟩, some (String.ofList (chars.drop (first.length + 1))))

/-- What letters stand for that are hard to see. -/
def visible (c : Char) : String :=
  match c with
  | '\\' => "\\\\"
  | '\x07' => "\\a"
  | '\x08' => "\\b"
  | '\x0c' => "\\f"
  | '\n' => "\\n"
  | '\r' => "\\r"
  | '\t' => "\\t"
  | '\x0b' => "\\v"
  | c =>
    if ' ' ≤ c && c ≤ '~' then c.toString
    else "\\" ++ String.ofList ([c.toNat / 64, c.toNat / 8 % 8, c.toNat % 8].map fun digit =>
      Char.ofNat (48 + digit))

/-- A text in which every character can be seen, in lines that are not longer than asked for. -/
def listed (width : Nat) (text : String) : String :=
  let (found, _) := text.toList.foldl (fun (found, column) c =>
    let shown := visible c
    if 0 < width && width - 1 < column + shown.length then (found ++ "\\\n" ++ shown, shown.length)
    else (found ++ shown, column + shown.length)) ("", 0)
  found ++ "$\n"

/-- Replaces matches in the space. -/
def substitute (substitution : Substitution) : Edit Unit := do
  let regex ← regexOf substitution.sample
  let space := (← get).space
  match replaced? regex substitution space.text with
  | none => return
  | some text =>
    setSpace { space with text }
    modify fun session => { session with replaced := true }
    if substitution.printsFirst then printSpace (← get).space
    if substitution.runs then
      let found ← output text
      setSpace { space with text := (withoutStop (← read).stop found).1 }
    if substitution.prints && !substitution.printsFirst then printSpace (← get).space
    if let some target := substitution.target then writeSpace target (← get).space

/-- The place of a label: behind the end without one. -/
def labelled (label : String) : Edit Next := do
  let program := (← read).program
  return .jump ((program.labels.lookup label).getD program.commands.size)

/-- Jumps to a label if something was replaced, or if nothing was. -/
def jumpIf (wanted : Bool) (label : String) : Edit Next := do
  let isReplaced := (← get).replaced
  modify fun session => { session with replaced := false }
  if isReplaced = wanted then labelled label else return .onward

/-- Adds to what is printed when the next line is read. -/
def enqueue (queued : Queued) : Edit Unit :=
  modify fun session => { session with queue := session.queue ++ [queued] }

/-- Two lines in one, which ends as the second one does. -/
def joined (first second : Space) : Edit Space := do
  return { second with text := first.text ++ (← read).stop.toString ++ second.text }

/-- Carries out the action of a command for the current line. -/
def perform (place : Nat) (command : Command) : Edit Next := do
  let setup ← read
  let session ← get
  let space := session.space
  match command.action with
  | .block _ | .nothing => return .onward
  | .append text => enqueue (.text text)
  | .insert text => print text
  | .change text =>
    let isLast := match session.ranges[place]? with
      | some (.active _) => false
      | _ => true
    if isLast || command.negated then print text
    return .nextLine false
  | .branch label => return ← labelled label
  | .branchIf label => return ← jumpIf true label
  | .branchUnless label => return ← jumpIf false label
  | .delete => return .nextLine false
  | .deleteFirst =>
    match ← firstLine space with
    | (_, none) => return .nextLine false
    | (_, some rest) =>
      setSpace { space with text := rest }
      return .again
  | .run command =>
    if command.isEmpty then
      let found ← output space.text
      setSpace { space with text := (withoutStop setup.stop found).1 }
    else
      print ""
      putMain (← output command)
  | .name => print (session.path ++ setup.stop.toString)
  | .get => setSpace session.held
  | .getAppend => setSpace (← joined space session.held)
  | .hold => modify fun session => { session with held := space }
  | .holdAppend =>
    let held ← joined session.held space
    modify fun session => { session with held }
  | .exchange => modify fun session => { session with space := session.held, held := space }
  | .list width => print (listed (width.getD setup.width) space.text)
  | .next =>
    if ← isAtEnd then return .nextLine (!setup.strict)
    if !setup.silent then printSpace space
    if !(← advance false) then return .stop 0
  | .nextAppend =>
    if (← isAtEnd) || !(← advance true) then return .nextLine (!setup.strict)
  | .print => printSpace space
  | .printFirst => printSpace (← firstLine space).1
  | .number => print (toString session.number ++ "\n")
  | .quit status =>
    if !setup.silent then printSpace space
    printQueue
    return .stop status
  | .quitSilently status => return .stop status
  | .readFile path => enqueue (.file path)
  | .readLine path =>
    if let some line ← lineOf? path then enqueue (.text line)
  | .substitute substitution => substitute substitution
  | .write target => writeSpace target space
  | .writeFirst target => writeSpace target (← firstLine space).1
  | .translate pairs =>
    let units := setup.call.charset.spelt space.text.toList
    setSpace { space with text := String.join (units.map fun unit =>
      (pairs.lookup unit.octets).getD unit.octets) }
  | .clear => setSpace { space with text := "" }
  return .onward

/-- Runs the program for the current line from a place on, and then for those that follow it; the
status. At most `steps` are taken. -/
def runFrom : (steps : Nat) → (place : Nat) → Edit Nat
  | 0, _ => Act.exhaust
  | steps + 1, place => do
    let setup ← read
    let next ← match setup.program.commands[place]? with
      | none => pure (.nextLine true)
      | some command =>
        if (← isSelected place command) != command.negated then perform place command
        else match command.action with
          | .block stop => pure (.jump stop)
          | _ => pure .onward
    match next with
    | .onward => runFrom steps (place + 1)
    | .jump place => runFrom steps place
    | .again => runFrom steps 0
    | .stop status => return status
    | .nextLine prints =>
      if prints && !setup.silent then printSpace (← get).space
      if ← advance false then runFrom steps 0 else return 0

/-- How many steps a program may take. -/
def maxSteps : Nat := 1000000000

/-- Edits all lines; the status. -/
def all : Edit Nat := do
  let status ← if ← advance false then runFrom maxSteps 0 else pure 0
  let session ← get
  if let some lines := session.lines then
    if lines.descriptor = 0 then unread 0 lines.unused
  closeInput
  flush
  if (← Act.channel? 1).isNone then giveUp "couldn't close stdout: Bad file descriptor"
  return if (← get).missed then 2 else status

end Edit

end StagedBuild.Script.Tools.Sed
