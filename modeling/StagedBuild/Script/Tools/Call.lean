import StagedBuild.Process.Course
import StagedBuild.Script.Quotation

/-!
# Calls of tools

A tool is told the name it was called by, its arguments and its variables; it reads and writes
through its descriptors, and its result is its status. A tool that cannot print ends at once.
-/

namespace StagedBuild.Script

open Process

/-- How a program is called. -/
structure Call where
  name : String
  args : List String
  environment : List (String × String)
  /-- The status of the program when it has to give up. -/
  trouble : Nat := 1
  /-- What is shown to those who call it in a wrong way. -/
  usage : String := ""
  deriving Repr

/-- A program of the system. -/
abbrev Tool := Call → Act Nat

/-- Lets the process become the program that a call names; the error if it cannot. -/
abbrev Execute := Call → Act OsError

namespace Call

/-- How the tool takes octets for characters. -/
def charset (call : Call) : Text.Charset :=
  .ofEnvironment call.environment

/-- A text in quotes. -/
def quoted (call : Call) (text : String) : String :=
  Quotation.inQuotes call.charset text

/-- The name of a file, always in quotes. -/
def path (call : Call) (text : String) : String :=
  Quotation.always call.charset text

/-- The name of a file, in quotes if it needs them. -/
def plainPath (call : Call) (text : String) : String :=
  Quotation.ifNeeded call.charset text

/-- Writes a line to the error output. -/
def say (_ : Call) (line : String) : Act Unit := do
  let _ ← Act.write 2 (line ++ "\n")

/-- Writes a line with the name of the tool to the error output. -/
def complain (call : Call) (problem : String) : Act Unit :=
  call.say (call.name ++ ": " ++ problem)

/-- Complains and gives the status of a failure. -/
def refuse (call : Call) (problem : String) : Act Nat := do
  call.complain problem
  return call.trouble

/-- Complains and ends. -/
def giveUp {α : Type} (call : Call) (problem : String) : Act α := do
  call.complain problem
  Act.exit call.trouble

/-- Tells how to learn how the tool is called. -/
def advise (call : Call) : Act Nat := do
  call.say (call.usage ++ "Try '" ++ call.name ++ " --help' for more information.")
  return call.trouble

/-- Complains about how the tool was called. -/
def misused (call : Call) (problem : String) : Act Nat := do
  call.complain problem
  call.advise

/-- Complains about how the tool was called, and ends. -/
def dismiss {α : Type} (call : Call) (problem : String) : Act α := do
  Act.exit (← call.misused problem)

/-- Prints text. -/
def print (call : Call) (text : String) : Act Unit := do
  match ← Act.write 1 text with
  | .ok () => return
  | .error e => call.giveUp ("write error: " ++ e.description)

/-- Prints text as all that there is to do. -/
def result (call : Call) (text : String) : Act Nat := do
  call.print text
  return 0

end Call

namespace Tools

/-- Does something for each argument; the greatest status. -/
def forEach {α : Type} (act : α → Act Nat) : List α → Act Nat
  | [] => return 0
  | arg :: args => do
    let status ← act arg
    return max status (← forEach act args)

end Tools

end StagedBuild.Script
