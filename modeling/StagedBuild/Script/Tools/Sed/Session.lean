import StagedBuild.Script.Tools.Input
import StagedBuild.Script.Tools.Sed.Program

/-!
# Editing streams of lines

While a stream is edited, lines are read from one input after another, and texts are written to
several outputs. A last line without an end gets one as soon as something follows it. A file that is
edited in place is replaced when its end has been reached.
-/

namespace StagedBuild.Script.Tools.Sed

open Process

/-- A line without its end, and whether it has one. -/
structure Space where
  text : String := ""
  ended : Bool := true

/-- An output of lines, and whether the last of them lacks its end. -/
structure Outlet where
  descriptor : Nat
  unended : Bool := false

/-- How far a range of lines is. -/
inductive Range where
  | idle
  /-- Up to the line of a number, or to one that the second address selects. -/
  | active (last : Option Nat)
  | closed

/-- What is printed when the next line is read. -/
inductive Queued where
  | text (text : String)
  | file (path : String)

/-- How a stream is edited. -/
structure Setup where
  call : Call
  execute : Execute
  program : Program
  silent : Bool
  /-- Each input has its own line numbers and its own last line. -/
  separate : Bool
  /-- Files are edited in place, and are kept under names with this pattern. -/
  backup : Option String := none
  stop : Char := '\n'
  width : Nat := 70
  /-- Nothing is read or kept back that need not be. -/
  sparing : Bool := false
  /-- Nothing that goes beyond the standard is done. -/
  strict : Bool := false
  /-- Where the program ends. -/
  place : String := ""

/-- The state of editing. -/
structure Session where
  /-- The inputs that have not been opened yet. -/
  paths : List String
  lines : Option Lines := none
  path : String := "-"
  number : Nat := 0
  /-- The next input starts with new line numbers. -/
  startsOver : Bool := false
  /-- An input could not be opened. -/
  missed : Bool := false
  space : Space := {}
  held : Space := {}
  /-- Something was replaced since the last line was read, or since that was last asked. -/
  replaced : Bool := false
  queue : List Queued := []
  ranges : Array Range := #[]
  /-- The expression that was used last. -/
  sample : Option Regex := none
  /-- The outputs: of the lines, the same by its name, that of errors, and files. -/
  main : Outlet := ⟨1, false⟩
  output : Outlet := ⟨1, false⟩
  errors : Outlet := ⟨2, false⟩
  files : Array Outlet := #[]
  /-- The standard output that is kept back. -/
  kept : String := ""
  /-- The new content of the file that is edited in place. -/
  edited : Option String := none
  /-- Files from which single lines are read, by their paths. -/
  sources : List (String × Lines) := []

/-- A part of editing. -/
abbrev Edit (α : Type) := ReaderT Setup (StateT Session Act) α

namespace Edit

/-! ### Writing -/

/-- How much of the standard output is kept back. -/
def blockSize : Nat := 4096

/-- Complains and ends, after all that was kept back has been written. -/
def giveUp {α : Type} (problem : String) : Edit α := do
  let call := (← read).call
  call.complain problem
  let kept := (← get).kept
  let _ ← Act.write 1 kept
  Act.exit 4

/-- Writes what was kept back of the standard output. -/
def flush : Edit Unit := do
  let kept := (← get).kept
  modify fun session => { session with kept := "" }
  match ← Act.write 1 kept with
  | .ok () | .error .badDescriptor => return
  | .error e => giveUp ("couldn't flush stdout: " ++ e.description)

/-- Writes text to a descriptor; the standard output is written in blocks. -/
def put (descriptor : Nat) (text : String) : Edit Unit := do
  if descriptor = 1 then
    let all := (← get).kept ++ text
    if (← read).sparing then
      modify fun session => { session with kept := all }
      flush
    else if all.utf8ByteSize < blockSize then
      modify fun session => { session with kept := all }
    else
      let count := all.length / blockSize * blockSize
      modify fun session => { session with kept := (all.take count).toString }
      flush
      modify fun session => { session with kept := (all.drop count).toString }
  else match ← Act.write descriptor text with
    | .ok () => return
    | .error e => giveUp ("couldn't flush <unknown>: " ++ e.description)

/-- Writes text to the output of the lines. -/
def putMain (text : String) : Edit Unit := do
  match (← get).edited with
  | some edited => modify fun session => { session with edited := some (edited ++ text) }
  | none => put 1 text

/-- Writes text to the output of the lines, behind an end of the last one. -/
def print (text : String) : Edit Unit := do
  let stop := (← read).stop.toString
  let isUnended := (← get).main.unended
  modify fun session => { session with main.unended := false }
  putMain (if isUnended then stop ++ text else text)

/-- Writes a line to the output of the lines. -/
def printSpace (space : Space) : Edit Unit := do
  let stop := (← read).stop.toString
  print (if space.ended then space.text ++ stop else space.text)
  modify fun session => { session with main.unended := !space.ended }

/-- Writes a line to an output that a command names. -/
def writeSpace (target : Target) (space : Space) : Edit Unit := do
  let stop := (← read).stop.toString
  let session ← get
  let outlet := match target with
    | .output => session.output
    | .errors => session.errors
    | .file place => session.files.getD place ⟨1000, false⟩
  put outlet.descriptor ((if outlet.unended then stop else "") ++ space.text ++
    (if space.ended then stop else ""))
  let outlet := { outlet with unended := !space.ended }
  modify fun session => match target with
    | .output => { session with output := outlet }
    | .errors => { session with errors := outlet }
    | .file place => { session with files := session.files.setIfInBounds place outlet }

/-- Prints what has been queued. -/
def printQueue : Edit Unit := do
  let queue := (← get).queue
  modify fun session => { session with queue := [] }
  for queued in queue do
    match queued with
    | .text text => print text
    | .file path =>
      let text ← if path = "/dev/stdin" then Act.readAll 0 else Act.readFile path
      match text with
      | .ok text => if !text.isEmpty then print text
      | .error _ => pure ()

/-! ### Reading -/

/-- The state of the ranges before the first line. -/
def freshRanges (program : Program) : Array Range :=
  program.commands.map fun command => match command.first with
    | some (.line 0) => .active none
    | _ => .idle

/-- The name under which a file is kept that has been edited, if it is kept. -/
def backupPath? (pattern path : String) : Option String :=
  if pattern.isEmpty then none
  else
    let pattern := if pattern.contains '*' then pattern else "*" ++ pattern
    let slash := (path.toList.reverse.takeWhile (· != '/')).length
    let name := path.toList.drop (path.length - slash)
    let dir := path.toList.take (path.length - slash)
    let found := pattern.toList.flatMap fun c => if c = '*' then name else [c]
    some (String.ofList (if found.contains '/' then found else dir ++ found))

/-- Replaces a file by one with other content, and keeps it under another name. -/
def replaceFile (path : String) (backup : Option String) (text : String) (tree : FileTree)
    (dir : NodeId) : Except OsError FileTree := do
  let rights := (tree.node (← tree.find dir path)).rights
  let tree ← match backup with
    | some backup => tree.rename dir path backup
    | none => pure tree
  let content := Content.file (Text.Octets.toArray text)
  match ← tree.resolve dir path false with
  | ⟨place, some name, found⟩ =>
    let tree := if found.isSome then tree.unbind place name else tree
    return (tree.grow place name content rights).2
  | _ => throw .isDirectory

/-- Closes the current input, and replaces the file that was edited. -/
def closeInput : Edit Unit := do
  let setup ← read
  let session ← get
  if let some lines := session.lines then
    if lines.descriptor != 0 then Act.connect lines.descriptor none
  if let (some text, some pattern) := (session.edited, setup.backup) then
    match ← Act.changeTree (replaceFile session.path (backupPath? pattern session.path) text) with
    | .ok () => pure ()
    | .error e => giveUp ("cannot rename " ++ session.path ++ ": " ++ e.description)
  modify fun session => { session with
    lines := none, edited := none, startsOver := setup.separate
    main.unended := session.main.unended && session.edited.isNone }

/-- Opens an input, if that is possible. -/
def openInput (path : String) : Edit Unit := do
  let setup ← read
  let ready (descriptor : Nat) : Lines :=
    { descriptor, stop := setup.stop, sparing := setup.sparing }
  if path = "-" && setup.backup.isNone then
    modify fun session => { session with path, lines := some (ready 0) }
  else match ← Act.openPath .reading path with
    | .error e =>
      setup.call.complain ("can't read " ++ path ++ ": " ++ e.description)
      modify fun session => { session with path, missed := true }
    | .ok channel =>
      let descriptor ← Act.hide channel
      modify fun session => { session with path, lines := some (ready descriptor) }
      if setup.backup.isSome then
        if (← fileOf? descriptor).isNone then
          giveUp ("couldn't edit " ++ path ++ ": not a regular file")
        modify fun session => { session with edited := some "" }

/-- Starts over with all that was noted of the lines before, if the next input asks for that. -/
def startOver : Edit Unit := do
  let setup ← read
  if (← get).startsOver then
    let isUnended := (← get).main.unended
    if isUnended then print ""
    modify fun session => { session with
      number := 0, held := {}, startsOver := false, ranges := freshRanges setup.program, sources := [] }

/-- Opens inputs until one of them has a line; false if there is none. -/
def findInput : (count : Nat) → Edit Bool
  | 0 => return false
  | count + 1 => do
    match (← get).lines with
    | some lines =>
      let lines ← lines.fill Act.maxRounds
      modify fun session => { session with lines := some lines }
      if !lines.ready.isEmpty then return true
      closeInput
      findInput count
    | none =>
      match (← get).paths with
      | [] => return false
      | path :: paths =>
        modify fun session => { session with paths }
        openInput path
        findInput count

/-- No line follows the current one. -/
def isAtEnd : Edit Bool := do
  match (← get).lines with
  | some lines =>
    let lines ← lines.fill Act.maxRounds
    modify fun session => { session with lines := some lines }
    if !lines.ready.isEmpty then return false
    if (← read).separate then return true
  | none => pure ()
  return !(← findInput (2 * (← get).paths.length + 2))

/-- Reads the next line, which may be joined to the current one; false if there is none. -/
def nextLine (joins : Bool) : (count : Nat) → Edit Bool
  | 0 => return false
  | count + 1 => do
    match (← get).lines with
    | none =>
      match (← get).paths with
      | [] => return false
      | path :: paths =>
        startOver
        modify fun session => { session with paths }
        openInput path
        nextLine joins count
    | some lines =>
      let (found, lines) ← lines.next
      modify fun session => { session with lines := some lines }
      match found with
      | none =>
        if let some e := lines.problem then
          let path := (← get).path
          giveUp ("read error on " ++ (if path = "-" then "stdin" else path) ++ ": " ++
            e.description)
        closeInput
        nextLine joins count
      | some line =>
        let stop := (← read).stop
        let (text, ended) := withoutStop stop line
        modify fun session => { session with
          number := session.number + 1
          space := ⟨if joins then session.space.text ++ stop.toString ++ text else text, ended⟩ }
        return true

/-- Prints what has been queued and goes on to the next line; false if there is none. -/
def advance (joins : Bool) : Edit Bool := do
  printQueue
  modify fun session => { session with replaced := false }
  nextLine joins (2 * (← get).paths.length + 3)

/-- The next line of a file with its end, if there is one. -/
def lineOf? (path : String) : Edit (Option String) := do
  let lines ← match (← get).sources.lookup path with
    | some lines => pure lines
    | none =>
      if path = "/dev/stdin" then pure { descriptor := 0 }
      else match ← Act.openPath .reading path with
        | .ok channel => pure { descriptor := ← Act.hide channel }
        | .error _ => pure { descriptor := 0, ended := true }
  let (found, lines) ← lines.next
  modify fun session => { session with
    sources := (path, lines) :: session.sources.filter (·.1 != path) }
  return found

/-! ### Starting programs -/

/-- What a shell prints that runs a command. -/
def output (command : String) : Edit String := do
  let setup ← read
  let (reading, writing) ← Act.pipe
  let input ← Act.hide reading
  let hidden ← Act.hide writing
  let child ← Act.fork (do
    Act.connect 1 (some writing)
    let _ ← setup.execute { setup.call with
      name := "sh", args := ["-c", command], trouble := 1, usage := "" }
    return .status 127)
  Act.connect hidden none
  let text ← Act.readAll input
  Act.connect input none
  let _ ← Act.waitFor child
  return text.toOption.getD ""

end Edit

end StagedBuild.Script.Tools.Sed
