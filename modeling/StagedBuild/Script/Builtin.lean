import StagedBuild.Script.Builtin.Aliases
import StagedBuild.Script.Builtin.Directory
import StagedBuild.Script.Builtin.Input
import StagedBuild.Script.Builtin.Rights
import StagedBuild.Script.Builtin.Settings
import StagedBuild.Script.Builtin.Signals
import StagedBuild.Script.Condition
import StagedBuild.Script.Expansion
import StagedBuild.Script.Print

/-!
# Commands of the shell

The commands that a shell carries out itself and that need no other command: they print, ask, leave
what is running, and change variables, options, arguments and the directory.
-/

namespace StagedBuild.Script.Builtin

open Process

/-- Prints as a format says. Complaints come before what is printed. -/
def printf : Body := fun args => do
  let (_, args) ← options [] [] args
  match args with
  | [] => Run.fail "usage: printf format [arg ...]"
  | format :: args =>
    let printed := Print.format .shell format args
    for written in printed.written do
      match written with
      | .complaint text => Run.report text
      | .output _ => pure ()
    let status ← say (String.join (printed.written.map fun
      | .output text => text
      | .complaint _ => ""))
    return max status printed.status

/-- Puts a condition; the answer is the status. -/
def condition (inBrackets : Bool) : Body := fun args => do
  let args ←
    if !inBrackets then pure args
    else if args.getLast?.any (·.startsWith "]") then pure args.dropLast
    else Run.fail "missing ]"
  match Condition.askShell (← (Act.viewTree Condition.Files.mk : Act _)) args with
  | .ok answer => return if answer then 0 else 1
  | .error problem => Run.fail problem

/-- Ends the shell, with the status of the last command if none is given. -/
def exit : Body := fun args => do
  match args with
  | arg :: _ =>
    let status ← number arg
    modify fun shell => { shell with ending := shell.ending.map fun _ => status }
    Run.exit status
  | [] =>
    let shell ← get
    Run.exit (shell.ending.getD shell.status)

/-- Leaves a function or a script. -/
def «return» : Body := fun args => do
  let status ← match args with
    | arg :: _ => number arg
    | [] => pure (← get).status
  Run.setStatus status
  throw .giveBack

/-- Leaves loops, or goes on with the next round of one. -/
def jump (jump : Nat → Jump) : Body := fun args => do
  let count ← match args with
    | arg :: _ => do
      let count ← number arg
      if count = 0 then Run.fail ("Illegal number: " ++ arg)
      pure count
    | [] => pure 1
  let count := min count (← get).loops
  if count = 0 then return 0
  Run.setStatus 0
  throw (jump count)

/-- The commands of the shell that need no other command, by their names. -/
def find? (name : String) : Option Body :=
  match name with
  | ":" | "true" => some fun _ => return 0
  | "false" => some fun _ => return 1
  | "echo" => some fun args => say (Print.echoInShell args)
  | "printf" => some printf
  | "test" => some (condition false)
  | "[" => some (condition true)
  | "cd" | "chdir" => some cd
  | "pwd" => some pwd
  | "export" => some (mark (·.exported) fun found => { found with exported := true })
  | "readonly" => some (mark (·.readOnly) fun found => { found with readOnly := true })
  | "local" => some «local»
  | "unset" => some unset
  | "shift" => some shift
  | "set" => some set
  | "exit" => some exit
  | "return" => some «return»
  | "break" => some (jump .leave)
  | "continue" => some (jump .proceed)
  | "trap" => some trap
  | "read" => some read
  | "getopts" => some getopts
  | "wait" => some wait
  | "umask" => some umask
  | "kill" => some kill
  | "alias" => some «alias»
  | "unalias" => some unalias
  | "fg" | "bg" => some resume
  | "jobs" => some jobs
  | "times" => some fun _ => say "0m0.000000s 0m0.000000s\n0m0.000000s 0m0.000000s\n"
  | "ulimit" => some fun args => if args.isEmpty then say "unlimited\n" else return 0
  | _ => none

/-- The commands of the shell that run others. -/
def runners : List String := [".", "command", "eval", "exec", "hash", "type"]

/-- The name is that of a command of the shell. -/
def isBuiltin (name : String) : Bool :=
  runners.contains name || (find? name).isSome

end StagedBuild.Script.Builtin
