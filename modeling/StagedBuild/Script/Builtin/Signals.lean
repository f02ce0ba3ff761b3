import StagedBuild.Script.Builtin.Arguments
import StagedBuild.Script.Job

/-!
# Signals and commands in the background

What to do when a signal comes, sending signals, and waiting for commands in the background.
-/

namespace StagedBuild.Script.Builtin

open Process

/-- What a signal is called. -/
def signalName (number : Nat) : String :=
  match (Signal.names.filter (·.2 != 16)).find? (·.2 == number) with
  | some (name, _) => name
  | none =>
    if number < 34 then toString number
    else if number < 50 then "RTMIN+" ++ toString (number - 34)
    else "RTMAX-" ++ toString (Signal.last - number)

/-- The number of a signal, given as that. -/
def signalNumber? (text : String) : Option Nat :=
  if text.toList.all Char.isDigit then text.toNat?.filter (· ≤ Signal.last) else none

/-- The number of a signal, given by its name or its number. -/
def signal? (text : String) : Option Nat :=
  let name := String.ofList (text.toList.map Char.toUpper)
  match signalNumber? text with
  | some number => some number
  | none => (List.range (Signal.last + 1)).find? fun number => signalName number = name

/-- Lets the process do about a signal what the traps of the shell say. -/
def setEffect (signal : Signal) (action : Option String) : Run Unit := do
  if !(← get).deaf.contains signal then
    Act.change (·.setActor fun process =>
      let ignored := process.ignored.filter (· != signal)
      let caught := process.caught.filter (· != signal)
      match action with
      | none => { process with ignored, caught }
      | some "" => { process with ignored := signal :: ignored, caught }
      | some _ => { process with ignored, caught := signal :: caught })

/-- Says what to do at signals and at the end. -/
def trap : Body := fun args => do
  let (_, args) ← options [] [] args
  match args with
  | [] =>
    let traps := (← get).traps.mergeSort fun a b => a.1 ≤ b.1
    say (String.join (traps.map fun (number, action) =>
      "trap -- " ++ Shell.quote action ++ " " ++ signalName number ++ "\n"))
  | first :: rest =>
    let (action, names) : Option String × List String :=
      if rest.isEmpty || (signalNumber? first).isSome then (none, args)
      else (if first = "-" then none else some first, rest)
    for name in names do
      match signal? name with
      | none =>
        Run.writeError ("trap: " ++ name ++ ": bad trap\n")
        return 1
      | some number =>
        modify fun shell =>
          let others := shell.traps.filter (·.1 != number)
          { shell with traps := (action.map (number, ·)).toList ++ others }
        if number != 0 then setEffect number action
    return 0

/-- Sends a signal to all processes. -/
def sendToAll (signal : Signal) : Act Unit := do
  for number in ← Act.view (·.running) do
    if number != (← Act.number) then
      let _ ← Act.send number signal
  Act.raise signal

/-- Sends a signal to a process; the status. Jobs are no groups of processes. -/
def send (signal : Signal) (target : String) : Run Nat := do
  let nobody : Run Nat := do
    Run.report "No such process\n"
    return 1
  match target.toList with
  | '%' :: _ =>
    let _ ← Run.findJob target
    nobody
  | '-' :: digits =>
    let _ ← number (String.ofList digits)
    nobody
  | _ =>
    let id ← number target
    if id = 0 then
      sendToAll signal
      return 0
    match ← (Act.send id signal : Act _) with
    | .ok () => return 0
    | .error _ => nobody

/-- Sends a signal to several processes. -/
def sendAll (signal : Nat) : List String → Run Nat
  | [] => return 0
  | target :: targets => do
    let status ← send signal target
    return max status (← sendAll signal targets)

/-- The names of signals: of all, or of the one that a status stands for. -/
def listSignals : List String → Run Nat
  | [] =>
    let names := (List.range Signal.last).map fun i => signalName (i + 1)
    say (String.join (("0" :: names).map (· ++ "\n")))
  | text :: _ => do
    let status ← number text
    let signal := if 128 < status then status - 128 else status
    if 0 < signal ∧ signal ≤ Signal.last then say (signalName signal ++ "\n")
    else Run.fail ("invalid signal number or exit status: " ++ text)

/-- Sends signals or lists them. -/
def kill : Body := fun args => do
  let usage : Run Nat :=
    Run.fail ("Usage: kill [-s sigspec | -signum | -sigspec] [pid | job]... or\n" ++
      "kill -l [exitstatus]")
  let toTargets (signal : Nat) (targets : List String) : Run Nat :=
    if targets.isEmpty then usage else sendAll signal targets
  match args with
  | [] => usage
  | first :: rest =>
    match first.toList with
    | '-' :: name =>
      match (signal? (String.ofList name)).filter fun signal => signal != 0 || name = ['0'] with
      | some signal => toTargets signal rest
      | none =>
        let (found, targets) ← options ['l'] ['s'] args
        let signals ← (found.filter (·.1 == 's')).mapM fun (_, name) =>
          match signal? name with
          | some signal => pure signal
          | none => Run.fail ("invalid signal number or name: " ++ name)
        match found.any (·.1 == 'l'), signals.getLast? with
        | true, signal =>
          if signal.isSome && !targets.isEmpty then usage else listSignals targets
        | false, signal => toTargets (signal.getD 15) targets
    | _ => toTargets 15 args

/-- The status that tells of a signal that the shell handles. -/
def interrupted : Act Nat :=
  Act.view fun world => 128 + (world.actor.pending.getLast?.getD 0)

/-- Waits for a job; whether it was over before a signal came. -/
def waitForOne (job : Job) : Run Bool := do
  if !(← (Run.waitUntil job.isOver : Act Bool)) then return false
  let news ← (Act.view job.news : Act String)
  Act.change (·.reap)
  if !news.isEmpty then Run.writeError news
  modify fun shell => { shell with
    jobs := shell.jobs.map fun other =>
      if other.number = job.number then { other with waited := true } else other }
  return true

/-- Waits for jobs, given by the numbers of their last processes or as jobs; the status of the last
one. -/
def waitForEach : (status : Nat) → List String → Run Nat
  | status, [] => return status
  | status, arg :: args => do
    let found ← if arg.startsWith "%" then some <$> Run.findJob arg
      else do
        let wanted ← number arg
        pure ((← get).jobs.find? (·.processes.getLast? == some wanted))
    match found with
    | none => waitForEach status args
    | some job =>
      if ← waitForOne job then
        waitForEach (← (Act.view job.status : Act Nat)) args
      else interrupted

/-- Waits for commands in the background. -/
def wait : Body := fun args => do
  let (_, args) ← options [] [] args
  if !args.isEmpty then waitForEach 127 args
  else
    let jobs := (← get).jobs
    if !(← (Run.waitUntil fun world => jobs.all (·.isOver world) : Act Bool)) then interrupted
    else
      Act.change (·.reap)
      modify fun shell => { shell with
        jobs := shell.jobs.map fun job => { job with waited := true } }
      return 0

/-- The line that shows a job: possibly with the numbers of its processes, or only the first of
these. -/
def jobLine (mode : Option Char) (all : List Job) (job : Job) (world : World) : String :=
  let sign := if all.head? == some job then "+" else if all.tail.head? == some job then "-" else " "
  let number (id : Nat) := if mode = some 'l' then toString id ++ " " else ""
  let wide (text : String) := text ++ String.ofList (List.replicate (33 - text.length) ' ')
  let before := "[" ++ toString job.number ++ "] " ++ sign ++ " "
  match mode, job.processes with
  | some 'p', first :: _ => toString first ++ "\n"
  | some 'l', first :: rest =>
    let indent := String.ofList (List.replicate before.length ' ')
    wide (before ++ number first ++ job.state world) ++
      String.join (rest.map fun id => " |\n" ++ wide (indent ++ number id)) ++ "\n"
  | _, processes =>
    wide (before ++ job.state world) ++ String.join (processes.tail.map fun _ => " | ") ++ "\n"

/-- Shows the jobs. Those that are over are shown once. -/
def jobs : Body := fun args => do
  let (found, args) ← options ['l', 'p'] [] args
  Act.change (·.reap)
  let all := (← get).jobs
  let shown ← if args.isEmpty then pure all else args.mapM Run.findJob
  let mode := found.getLast?.map (·.1)
  let text ← (Act.view fun world =>
    String.join (shown.map fun job => jobLine mode all job world) : Act String)
  if mode != some 'p' then
    let ended ← (Act.view fun world => (shown.filter (·.isOver world)).map (·.number) : Act _)
    modify fun shell => { shell with
      jobs := shell.jobs.filter fun job => !ended.contains job.number }
  say text

/-- Goes on with a command that was stopped, of which there are none. -/
def resume : Body := fun args => do
  let (_, args) ← options [] [] args
  match args with
  | [] =>
    let _ ← Run.findJob "%"
    Run.fail "job (null) not created under job control"
  | arg :: _ =>
    let _ ← Run.findJob arg
    Run.fail ("job " ++ arg ++ " not created under job control")

end StagedBuild.Script.Builtin
