import StagedBuild.Script.Condition
import StagedBuild.Script.Tools.Options

/-!
# Tools that print or ask

Printing arguments and names, putting conditions, and waiting.
-/

namespace StagedBuild.Script.Tools

open Process

/-- Writes what a printing tool makes. -/
def emit (call : Call) : List Written → Act Unit
  | [] => return
  | .output text :: rest => do
    call.print text
    emit call rest
  | .complaint text :: rest => do
    call.complain text
    emit call rest

/-- What was written, with neighbouring output in one. -/
def joined : List Written → List Written
  | [] => []
  | .output text :: rest =>
    match joined rest with
    | .output more :: rest => .output (text ++ more) :: rest
    | rest => .output text :: rest
  | found :: rest => found :: joined rest

/-- Prints its arguments. -/
def echo : Tool := fun call => call.result (Print.echoOfSystem call.args)

/-- Prints as a format says. -/
def printf : Tool := fun call => do
  match (if call.args.head? = some "--" then call.args.tail else call.args) with
  | [] => call.misused "missing operand"
  | format :: args =>
    let printed := Print.format (.system call.charset) format args
    emit call (joined printed.written)
    return printed.status

/-- Puts a condition; the answer is the status. -/
def condition (inBrackets : Bool) : Tool := fun call => do
  let call := { call with trouble := 2 }
  if inBrackets && call.args.getLast? != some "]" then
    return ← call.refuse ("missing " ++ call.quoted "]")
  let args := if inBrackets then call.args.dropLast else call.args
  match Condition.askSystem call.charset (← Act.viewTree Condition.Files.mk) args with
  | .ok answer => return if answer then 0 else 1
  | .error problem => call.refuse problem

/-- Prints the directory it was started in: where it really is, or with `-L` as the environment names
it if that is right. -/
def pwd : Tool := withOptions "L,logical P,physical" fun given _ call => do
  let named := if given.last? ["L", "P"] == some "L" then call.environment.lookup "PWD" else none
  let path ← Act.viewTree fun tree dir =>
    let physical := (tree.placeOf? dir).map fun names => "/" ++ "/".intercalate names
    match named with
    | some path =>
      let names := FilePath.segments path
      let plain := !names.contains "." && !names.contains ".."
      if path.startsWith "/" && plain && (tree.find dir path).toOption == some dir then some path
      else physical
    | none => physical
  match path with
  | some path => call.result (path ++ "\n")
  | none => call.refuse "couldn't find directory entry in '..' with matching i-node"

/-- The time that a text denotes, in billionths of a second: a number that may have a unit. -/
def duration? (text : String) : Option Nat :=
  let (found, rest) := Numeral.readReal .extended text.toList
  let units := [([], 1), (['s'], 1), (['m'], 60), (['h'], 3600), (['d'], 86400)]
  match units.lookup rest, found.value with
  | some unit, .finite negative num den =>
    if rest.length = text.length ∨ (negative ∧ num ≠ 0) then none
    else some ((num * unit * 1000000000 + den - 1) / den)
  | some _, .infinite false => some 1000000000000000000000
  | _, _ => none

/-- Waits. -/
def sleep : Tool := withOptions "" fun _ args call => do
  if args.isEmpty then return ← call.misused "missing operand"
  let times := args.map fun arg => (arg, duration? arg)
  let wrong := times.filter (·.2.isNone)
  if wrong.isEmpty then
    Act.sleep (times.foldl (fun sum (_, time) => sum + time.getD 0) 0)
    return 0
  for (arg, _) in wrong do
    call.complain ("invalid time interval " ++ call.quoted arg)
  call.say ("Try '" ++ call.name ++ " --help' for more information.")
  return 1

/-- Complains about an argument for which there is no use. -/
def superfluous (call : Call) (arg : String) : Act Nat :=
  call.misused ("extra operand " ++ call.quoted arg)

/-- The last name in a path, without an ending. -/
def lastName (path ending : String) : String :=
  match (Text.splitOn '/' path.toList).filter (!·.isEmpty) |>.getLast? with
  | none => if path.isEmpty then "" else "/"
  | some found =>
    let found := String.ofList found
    if found != ending && found.endsWith ending then
      String.ofList (found.toList.take (found.length - ending.length))
    else found

/-- The path without its last name. -/
def withoutLastName (path : String) : String :=
  let drop (chars : List Char) : List Char := chars.dropWhile (· == '/')
  let front := (drop ((drop path.toList.reverse).dropWhile (· != '/'))).reverse
  if !front.isEmpty then String.ofList front
  else if path.startsWith "/" then "/"
  else "."

/-- What ends a line, or a name in a list that other tools are to read. -/
def stopOf (given : Given) : String :=
  if given.has "z" then "\x00" else "\n"

/-- Prints last names. -/
def basename : Tool := withOptions "a,multiple s,suffix= z,zero" fun given args call => do
  let stop := stopOf given
  let ending := given.value? "s"
  match args, given.has "a" || ending.isSome with
  | [], _ => call.misused "missing operand"
  | paths, true =>
    call.result (String.join (paths.map fun path => lastName path (ending.getD "") ++ stop))
  | [path], false => call.result (lastName path "" ++ stop)
  | [path, ending], false => call.result (lastName path ending ++ stop)
  | _ :: _ :: extra :: _, false => superfluous call extra

/-- Prints paths without their last names. -/
def dirname : Tool := withOptions "z,zero" fun given paths call => do
  if paths.isEmpty then call.misused "missing operand"
  else call.result (String.join (paths.map fun path => withoutLastName path ++ stopOf given))

/-- Prints the same line again and again. -/
def yes : Tool := withOptions "" fun _ args call => do
  let line := (if args.isEmpty then "y" else " ".intercalate args) ++ "\n"
  let block := String.join (List.replicate (8192 / line.length + 1) line)
  repeated call block Act.maxRounds
where
  /-- Prints a text so many times. -/
  repeated (call : Call) (text : String) : Nat → Act Nat
    | 0 => return 0
    | count + 1 => do
      match ← Act.write 1 text with
      | .ok () => repeated call text count
      | .error e => call.refuse ("standard output: " ++ e.description)

/-- Shows variables of its environment, or all of them. -/
def printenv : Tool := withOptions "0,null" fun given names call => do
  let call := { call with trouble := 2 }
  let stop := if given.has "0" then "\x00" else "\n"
  if names.isEmpty then
    call.result (String.join (call.environment.map fun (name, value) =>
      name ++ "=" ++ value ++ stop))
  else
    let found := names.map fun name => call.environment.lookup name
    call.print (String.join (found.map fun value => value.elim "" (· ++ stop)))
    return if found.contains none then 1 else 0

/-- What the system says of itself, by the letters of the options that ask for it. -/
def systemNames : List (String × String) :=
  [("s", "Linux"), ("n", "localhost"), ("r", "6.1.0"), ("v", "#1 SMP"), ("m", "x86_64"),
   ("p", "unknown"), ("i", "unknown"), ("o", "GNU/Linux")]

/-- Shows what the system is called. -/
def uname : Tool := withOptions ("a,all s,kernel-name,sysname n,nodename r,kernel-release,release " ++
    "v,kernel-version m,machine p,processor i,hardware-platform o,operating-system")
    fun given args call => do
  if let some arg := args.head? then return ← superfluous call arg
  let isShown (key value : String) : Bool :=
    if given.has "a" then value != "unknown" else given.has key || (given.isEmpty && key == "s")
  let shown := systemNames.filter fun (key, value) => isShown key value
  call.result (" ".intercalate (shown.map (·.2)) ++ "\n")

end StagedBuild.Script.Tools
