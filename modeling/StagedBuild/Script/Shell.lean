import StagedBuild.Script.Numeral
import StagedBuild.Script.Reader
import StagedBuild.Process.Course

/-!
# Shells

The state of a running script, and the steps on it. A step is told what to do after it, and what to
do if it ends in a jump, which leaves the commands around it: up to a loop, a function or the end
of the shell. What a shell shares with other processes (its directory, its descriptors) belongs to
the world and not to this state.
-/

namespace StagedBuild.Script

open Process

/-- A variable of a shell. It may have properties without having a value. -/
structure Variable where
  value : Option String
  exported : Bool := false
  readOnly : Bool := false
  deriving DecidableEq, Repr

/-- Commands that were started together. -/
structure Job where
  number : Nat
  processes : List Nat
  /-- Somebody has waited for its end. -/
  waited : Bool := false
  deriving DecidableEq, Repr

/-- What a function that is running restores when it ends. -/
structure Frame where
  bindings : List (String × Option Variable) := []
  options : Option (List Char) := none

/-- A running script. -/
structure Shell where
  /-- The path of the directory, as it was reached; empty if nobody knows it. -/
  path : String
  /-- The number of the process that the shell started as. -/
  number : Nat
  /-- The name that messages start with. -/
  name : String
  arguments : List String := []
  bindings : List (String × Variable) := []
  functions : List (String × Command) := []
  /-- Words that stand for other text at the start of a command. -/
  aliases : List (String × String) := []
  documents : Documents := []
  /-- The paths of programs that have been found, by their names, with whether they have to be
  looked for again. -/
  remembered : List (String × String × Bool) := []
  /-- The letters of the options that are on. -/
  options : List Char := []
  status : Nat := 0
  /-- The line that messages name. -/
  line : Nat := 0
  /-- The command of the shell that messages name. -/
  calling : Option String := none
  /-- The status of the last substitution of the command that is being run. -/
  substituted : Nat := 0
  /-- How many loops are running. -/
  loops : Nat := 0
  /-- What to restore when the functions end that are running. -/
  saved : List Frame := []
  /-- How many functions are running. -/
  calls : Nat := 0
  /-- Commands for signals, by their numbers; zero is the end of the shell. -/
  traps : List (Nat × String) := []
  /-- Signals that were ignored when the shell started, which it cannot handle. -/
  deaf : List Signal := []
  /-- Commands in the background, the last one first. -/
  jobs : List Job := []
  /-- The number of the last process in the background. -/
  lastStarted : Option Nat := none
  /-- The number of the argument that options are taken from next. -/
  optionIndex : Nat := 1
  /-- The place inside the argument before that one, if options are still to be taken there. -/
  optionOffset : Option Nat := none
  /-- The line up to which the script has been read. -/
  reading : Nat := 1
  /-- The status with which the shell is ending, while its last commands run. -/
  ending : Option Nat := none

/-- How a command is left before its end. -/
inductive Jump where
  /-- The shell ends. -/
  | exit
  /-- An error that ends the shell, unless a command of the shell contains it. -/
  | failure
  /-- Leaves so many loops. -/
  | leave (loops : Nat)
  /-- Goes on with the next round of a loop, after leaving those inside it. -/
  | proceed (loops : Nat)
  /-- Leaves a function or a script. -/
  | giveBack
  deriving DecidableEq, Repr

/-- A step of a shell: it is given what follows it, and what follows a jump. -/
def Run (α : Type) : Type :=
  Shell → (α → Shell → Course) → (Jump → Shell → Course) → Course

namespace Run

instance : Monad Run where
  pure a := fun shell next _ => next a shell
  bind act rest := fun shell next leave =>
    act shell (fun a shell => rest a shell next leave) leave

instance : LawfulMonad Run := LawfulMonad.mk' Run
  (fun _ => rfl) (fun _ _ => rfl) (fun _ _ _ => rfl)

instance : MonadStateOf Shell Run where
  get := fun shell next _ => next shell shell
  set shell := fun _ next _ => next ⟨⟩ shell
  modifyGet change := fun shell next _ =>
    let (found, shell) := change shell
    next found shell

instance : MonadExceptOf Jump Run where
  throw jump := fun shell _ leave => leave jump shell
  tryCatch act handle := fun shell next leave =>
    act shell next fun jump shell => handle jump shell next leave

/-- A part of the course of the process as a step of the shell. -/
instance : MonadLift Act Run where
  monadLift act := fun shell next _ => act fun found => next found shell

/-- Starts a process that is a copy of the shell; its number. -/
def fork (child : Run Unit) : Run Nat := fun shell next _ =>
  let done (shell : Shell) : Course := .ended (.status (shell.status % 256))
  .fork (child shell (fun _ => done) (fun _ => done)) fun number => next number shell

/-- Does something after a step, however that ends. -/
def thenAlways {α : Type} (act : Run α) (after : Run Unit) : Run α := fun shell next leave =>
  act shell (fun found shell => after shell (fun _ shell => next found shell) leave)
    fun jump shell => after shell (fun _ shell => leave jump shell) leave

/-- Undoes some changes after a step, however it ends. -/
def restoring {α : Type} (undo : (before after : Shell) → Shell) (act : Run α) : Run α := do
  let before ← get
  thenAlways act (modify (undo before))

end Run

namespace Shell

/-- The value of a variable. -/
def valueOf? (shell : Shell) (name : String) : Option String :=
  (shell.bindings.lookup name).bind (·.value)

/-- The variable must not be changed. -/
def isReadOnly (shell : Shell) (name : String) : Bool :=
  (shell.bindings.lookup name).any (·.readOnly)

/-- Replaces a variable, or removes it. -/
def putVariable (shell : Shell) (name : String) (found : Option Variable) : Shell :=
  let bindings := match found with
    | none => shell.bindings.filter (·.1 != name)
    | some value =>
      if shell.bindings.any (·.1 == name) then
        shell.bindings.map fun entry => if entry.1 = name then (name, value) else entry
      else shell.bindings ++ [(name, value)]
  { shell with bindings }

/-- An option is on. -/
def has (shell : Shell) (option : Char) : Bool :=
  shell.options.contains option

/-- Sets the value of a variable. -/
def assign (shell : Shell) (name value : String) : Shell :=
  let old := (shell.bindings.lookup name).getD ⟨none, false, false⟩
  let shell := if name = "OPTIND"
    then { shell with optionIndex := max 1 (value.toNat?.getD 1), optionOffset := none }
    else if name = "PATH" then { shell with remembered := [] }
    else shell
  shell.putVariable name (some { old with
    value := some value
    exported := old.exported || shell.has 'a' })

/-- A number for a name, from its characters; the first one counts most. -/
def nameCode (name : String) : Nat :=
  let codes := name.toList.map Char.toNat
  codes.foldl (· + ·) (16 * codes.headD 0)

/-- The variables that programs are given come in groups, by the characters of their names. -/
def group (name : String) : Nat :=
  nameCode name % 39

/-- The variables that programs are given. -/
def environment (shell : Shell) : List (String × String) :=
  let exported := shell.bindings.filterMap fun (name, found) =>
    if found.exported then found.value.map (name, ·) else none
  exported.mergeSort fun a b => group a.1 ≤ group b.1

/-- Replaces the arguments. -/
def setArguments (shell : Shell) (arguments : List String) : Shell :=
  { shell with arguments, optionIndex := 1, optionOffset := none }

/-- The separators between fields. -/
def separators (shell : Shell) : String :=
  (shell.valueOf? "IFS").getD " \t\n"

/-- Text with single quotes around it, as the shell reads it. -/
def quote (text : String) : String :=
  let inner := (Text.splitOn '\'' text.toList).map String.ofList
  "'" ++ "'\"'\"'".intercalate inner ++ "'"

/-- The shell does something at signals or at its end. -/
def hasTraps (shell : Shell) : Bool :=
  shell.traps.any (!·.2.isEmpty)

end Shell

namespace Run

/-- Writes text to the error output. -/
def writeError (text : String) : Run Unit := do
  let _ ← Act.write 2 text

/-- Writes a message of the shell. -/
def report (message : String) : Run Unit := do
  let shell ← get
  let place := shell.name ++ ": " ++ toString shell.line ++ ": "
  let caller := shell.calling.elim "" (· ++ ": ")
  writeError (place ++ caller ++ message ++ "\n")

/-- Writes a message and fails. -/
def fail {α : Type} (message : String) : Run α := do
  report message
  modify fun shell => { shell with status := 2 }
  throw .failure

/-- Ends the shell. -/
def exit {α : Type} (status : Nat) : Run α := do
  modify fun shell => { shell with status }
  throw .exit

/-- Sets the status. -/
def setStatus (status : Nat) : Run Unit :=
  modify fun shell => { shell with status }

/-- Prints text; a problem is reported by whoever asked for it. -/
def print (text : String) : Run Bool := do
  return (← (Act.write 1 text : Act _)).isOk

/-- Refuses to change what must not be changed. -/
def checkWritable (name : String) : Run Unit := do
  if (← get).isReadOnly name then fail (name ++ ": is read only")

/-- Sets a variable. -/
def assign (name value : String) : Run Unit := do
  checkWritable name
  if name = "OPTIND" && (Numeral.integer? true false value).isNone then
    fail ("Illegal number: " ++ value)
  modify (·.assign name value)

/-- Refuses what is no name. -/
def checkName (name : String) : Run Unit := do
  if !isName name then fail (name ++ ": bad variable name")

/-- Changes the properties of a variable. -/
def change (name : String) (change : Variable → Variable) : Run Unit :=
  modify fun shell =>
    shell.putVariable name
      (some (change ((shell.bindings.lookup name).getD ⟨none, false, false⟩)))

/-- Keeps something to restore it when the function that is running ends. -/
def keepInFrame (change : Shell → Frame → Frame) : Run Unit :=
  modify fun shell =>
    match shell.saved with
    | frame :: frames => { shell with saved := change shell frame :: frames }
    | [] => shell

/-- Keeps a variable to restore it when the function that is running ends. -/
def save (name : String) : Run Unit :=
  keepInFrame fun shell frame =>
    if (frame.bindings.map (·.1)).contains name then frame
    else { frame with bindings := (name, shell.bindings.lookup name) :: frame.bindings }

/-- Keeps the options to restore them when the function that is running ends. -/
def saveOptions : Run Unit :=
  keepInFrame fun shell frame =>
    { frame with options := some (frame.options.getD shell.options) }

/-- Restores what was kept since the step started. -/
def withSaved {α : Type} (act : Run α) : Run α := do
  modify fun shell => { shell with saved := {} :: shell.saved }
  restoring (fun _ after =>
    match after.saved with
    | frame :: frames =>
      let shell := frame.bindings.foldl (fun shell (name, old) => shell.putVariable name old)
        { after with saved := frames }
      { shell with options := frame.options.getD shell.options }
    | [] => after) act

/-- Why a file could not be opened, as a script says it. -/
def openProblem (making : Bool) (path : String) (e : OsError) : String :=
  let reason := match e with
    | .notFound | .notDirectory => if making then "Directory nonexistent" else "No such file"
    | e => e.description
  (if making then "cannot create " else "cannot open ") ++ path ++ ": " ++ reason

/-- How a file is opened. A file that exists is not emptied when that is to be `kept`. -/
def accessOf (kept : Bool) : OpenMode → World.Access
  | .read => .reading
  | .write => if kept then { writes := true } else .writing
  | .overwrite => .writing
  | .append => .appending
  | .update => { reads := true, writes := true, makes := true }

/-- Opens a file for a descriptor. -/
def openFile (descriptor : Nat) (mode : OpenMode) (path : String) : Run Unit := do
  let found ← (if (← get).has 'C' && mode == .write then carefully else
    Act.openPath (accessOf false mode) path : Act _)
  match found with
  | .ok channel => Act.connect descriptor (some channel)
  | .error e => fail (openProblem (mode != .read) path e)
where
  /-- Opens the file only if it is not there yet, or is no plain file. -/
  carefully : Act (Except OsError Nat) := do
    match ← Act.find path with
    | .error _ => Act.openPath { World.Access.writing with onlyNew := true } path
    | .ok id =>
      let isPlain ← Act.viewTree fun tree _ => tree.content id matches .file _
      if isPlain then return .error .alreadyExists
      else Act.openPath (accessOf true .write) path

end Run

end StagedBuild.Script
