import StagedBuild.Script.Tools.Printing

/-!
# Tools that start others

Starting a program with other variables, in another directory, for a limited time, or without its
being disturbed.
-/

namespace StagedBuild.Script.Tools

open Process

/-- The status of a tool whose program cannot be started, by the error. -/
def startStatus (e : OsError) : Nat :=
  if e = .notFound then 127 else 126

/-! ### Variables -/

/-- A text that is being split into arguments: those that are done, and the one that is being put
together. -/
structure Splitting where
  done : List String := []
  current : Option String := none

namespace Splitting

/-- Adds text to the current argument. -/
def add (splitting : Splitting) (text : String) : Splitting :=
  { splitting with current := some (splitting.current.getD "" ++ text) }

/-- Ends the current argument. -/
def close (splitting : Splitting) : Splitting :=
  ⟨splitting.done ++ splitting.current.toList, none⟩

end Splitting

/-- White space between arguments. -/
def isSpace (c : Char) : Bool := Numeral.isSpace c

/-- What letters behind a backslash mean. -/
def splitEscapes : List (Char × String) :=
  [('f', "\x0c"), ('n', "\n"), ('r', "\r"), ('t', "\t"), ('v', "\x0b"), ('"', "\""), ('#', "#"),
   ('$', "$"), ('\'', "'"), ('\\', "\\")]

/-- The quotes that a text is in. -/
inductive InQuotes where
  | none
  | single
  | double
  deriving DecidableEq, Repr

/-- Splits a text into arguments, with quotes, escapes and variables. -/
def splitText (environment : List (String × String)) : InQuotes → Splitting → List Char →
    Except String (List String)
  | .none, splitting, [] => .ok splitting.close.done
  | _, _, [] => .error "no terminating quote in -S string"
  | quotes, splitting, '\'' :: rest =>
    match quotes with
    | .double => splitText environment quotes (splitting.add "'") rest
    | .single => splitText environment .none splitting rest
    | .none => splitText environment .single (splitting.add "") rest
  | quotes, splitting, '"' :: rest =>
    match quotes with
    | .single => splitText environment quotes (splitting.add "\"") rest
    | .double => splitText environment .none splitting rest
    | .none => splitText environment .double (splitting.add "") rest
  | quotes, splitting, '\\' :: rest =>
    match quotes, rest with
    | .single, c :: rest =>
      if c = '\\' ∨ c = '\'' then splitText environment quotes (splitting.add c.toString) rest
      else splitText environment quotes (splitting.add ("\\" ++ c.toString)) rest
    | _, [] => .error "invalid backslash at end of string in -S"
    | .none, '_' :: rest => splitText environment quotes splitting.close rest
    | .double, '_' :: rest => splitText environment quotes (splitting.add " ") rest
    | .double, 'c' :: _ => .error "'\\c' must not appear in double-quoted -S string"
    | .none, 'c' :: _ => .ok splitting.close.done
    | _, c :: rest =>
      match splitEscapes.lookup c with
      | some text => splitText environment quotes (splitting.add text) rest
      | none => .error ("invalid sequence '\\" ++ c.toString ++ "' in -S")
  | quotes, splitting, '$' :: rest =>
    if quotes = .single then splitText environment quotes (splitting.add "$") rest
    else
      let isInner (c : Char) : Bool := c.isAlphanum || c == '_'
      match rest with
      | '\x7b' :: first :: inside =>
        let name := (first :: inside).takeWhile isInner
        let isClosed := ((first :: inside).drop name.length).head? == some '\x7d'
        if first.isDigit || name.isEmpty || !isClosed then
          .error ("only $\x7bVARNAME\x7d expansion is supported, error at: $" ++
            String.ofList rest)
        else
          let splitting := match environment.lookup (String.ofList name) with
            | some value => splitting.add value
            | none => splitting
          splitText environment quotes splitting (inside.drop name.length)
      | _ => .error ("only $\x7bVARNAME\x7d expansion is supported, error at: $" ++
          String.ofList rest)
  | quotes, splitting, c :: rest =>
    if quotes = .none && isSpace c then splitText environment quotes splitting.close rest
    else if quotes = .none && c = '#' && splitting.current.isNone then .ok splitting.close.done
    else splitText environment quotes (splitting.add c.toString) rest
termination_by _ _ text => text.length
decreasing_by all_goals (simp only [List.length_cons, List.length_drop]; omega)

/-- The options of a tool that starts a program: a text that was given to be split takes the place of
its option, and may hold options of its own. -/
def startOptions (known : Known) (split : String → Except String (List String)) :
    (fuel : Nat) → List String → Except (Bool × String) (Given × List String)
  | 0, args => .ok ([], args)
  | _, [] => .ok ([], [])
  | fuel + 1, arg :: args =>
    match arg.toList with
    | ['-', '-'] => .ok ([], args)
    | '-' :: letter :: rest => do
      let found := if letter = '-' then longOption known args.head? rest
        else letters known args.head? (letter :: rest)
      let (found, used) ← found.mapError (true, ·)
      let args := if used then args.tail else args
      let args ← match Given.value? found "S" with
        | some text => ((split text).mapError (false, ·)).map (· ++ args)
        | none => pure args
      let (more, others) ← startOptions known split fuel args
      return (found ++ more, others)
    | _ => .ok ([], arg :: args)

/-- Sets a variable. One that is there keeps its place. -/
def setVariable (environment : List (String × String)) (name value : String) :
    List (String × String) :=
  if environment.any (·.1 == name) then
    environment.map fun (found, old) => (found, if found = name then value else old)
  else environment ++ [(name, value)]

/-- A variable with its value behind an equals sign. -/
def assignment? (text : String) : Option (String × String) :=
  let name := text.toList.takeWhile (· != '=')
  if name.length = text.length then none
  else some (String.ofList name, String.ofList (text.toList.drop (name.length + 1)))

/-- Tells how texts were split behind the option to do so. -/
def tellSplits (call : Call) (given : Given) : Act Unit := do
  for (key, text) in given.dropWhile (·.1 != "v") do
    if key = "S" then
      if let .ok (first :: others) := splitText call.environment .none {} text.toList then
        call.say ("split -S:  " ++ call.quoted text ++ "\n into:    " ++ call.quoted first)
        for other in others do
          call.say ("     &    " ++ call.quoted other)

/-- Starts a program with other variables, or shows the variables. -/
def env (execute : Execute) : Tool := fun call => do
  let call := { call with trouble := 125 }
  let known := Known.ofText ("C,chdir= i,ignore-environment S,split-string= u,unset= v,debug " ++
    "0,null ,default-signal? ,ignore-signal? ,block-signal? ,list-signal-handling")
  match startOptions known (fun text => splitText call.environment .none {} text.toList) 100
      call.args with
  | .error (true, problem) =>
    call.complain problem
    if problem.startsWith "invalid option -- ' '" then
      call.complain "use -[v]S to pass options in shebang lines"
    call.advise
  | .error (false, problem) => call.refuse problem
  | .ok (given, args) =>
    let (isEmpty, args) := match args with
      | "-" :: args => (true, args)
      | args => (given.has "i", args)
    tellSplits call given
    if given.has "v" && isEmpty then call.say "cleaning environ"
    let start := if isEmpty then [] else call.environment
    for name in given.values "u" do
      if name.isEmpty || name.contains '=' then
        call.giveUp ("cannot unset " ++ call.quoted name ++ ": Invalid argument")
    let start := start.filter fun (name, _) => !(given.values "u").contains name
    let settings := (args.map assignment?).takeWhile Option.isSome |>.filterMap id
    let rest := args.drop settings.length
    let environment := settings.foldl (fun environment (name, value) =>
      setVariable environment name value) start
    match rest with
    | [] =>
      if given.has "C" then
        return ← call.misused "must specify command with --chdir (-C)"
      let stop := if given.has "0" then "\x00" else "\n"
      call.result (String.join (environment.map fun (name, value) => name ++ "=" ++ value ++ stop))
    | name :: args =>
      if given.has "0" then
        return ← call.misused "cannot specify --null (-0) with command"
      if let some dir := given.value? "C" then
        match ← Act.find dir with
        | .ok id =>
          if ← Act.viewTree fun tree _ => tree.isDirectory id then
            Act.change (·.setActor fun process => { process with dir := id })
          else return ← call.refuse ("cannot change directory to " ++ call.path dir ++
              ": Not a directory")
        | .error e =>
          return ← call.refuse ("cannot change directory to " ++ call.path dir ++ ": " ++
            e.description)
      if given.has "v" then
        call.say ("executing: " ++ name)
        for (arg, i) in (name :: args).zipIdx do
          call.say ("   arg[" ++ toString i ++ "]= " ++ call.quoted arg)
      let e ← execute { call with name, args, environment, trouble := 1 }
      call.complain (call.quoted name ++ ": " ++ e.description)
      if e = .notFound && name.toList.any isSpace then
        call.complain "use -[v]S to pass options in shebang lines"
      return startStatus e

/-! ### Other ways to start -/

/-- Becomes a program, or says why that is not possible. -/
def becomeOr (execute : Execute) (call : Call) (problem : (name : String) → String) :
    List String → Act Nat
  | [] => call.misused "missing operand"
  | name :: args => do
    let e ← execute { call with name, args, trouble := 1 }
    call.complain (problem name ++ ": " ++ e.description)
    return startStatus e

/-- Starts a program that does not end when the terminal goes away. -/
def nohup (execute : Execute) : Tool := fun call =>
  withOptionsFirst "" noneOther (fun _ args call => do
    if args.isEmpty then return ← call.misused "missing operand"
    Act.change (·.setActor fun process => { process with ignored := 1 :: process.ignored })
    becomeOr execute call (fun name => "failed to run command " ++ call.path name) args)
    { call with trouble := 125 }

/-- Starts a program that lets others go first; without one it shows how far it does. -/
def nice (execute : Execute) : Tool := fun call =>
  let isOld (arg : String) : Bool := match arg.toList with
    | '-' :: c :: rest => c.isDigit || (c == '-' && rest.head?.any Char.isDigit)
    | _ => false
  let args := match call.args with
    | arg :: args => if isOld arg then ("-n" ++ (arg.drop 1).toString) :: args else arg :: args
    | [] => []
  withOptionsFirst "n,adjustment=" noneOther (fun given args call => do
    if let some text := given.value? "n" then
      if (Numeral.integer? true false text).isNone then
        return ← call.refuse ("invalid adjustment " ++ call.quoted text)
    if args.isEmpty then
      if given.has "n" then
        return ← call.misused "a command must be given with an adjustment"
      return ← call.result "0\n"
    becomeOr execute call call.quoted args) { call with args, trouble := 125 }

/-- Starts a program whose output is kept back more or less. -/
def stdbuf (execute : Execute) : Tool := fun call =>
  withOptionsFirst "i,input= o,output= e,error=" noneOther (fun given args call => do
    for mode in given.map (·.2) do
      if mode != "L" && (Numeral.integer? true false mode).isNone then
        call.giveUp ("invalid mode " ++ call.quoted mode)
    if args.isEmpty then return ← call.misused "missing operand"
    if given.isEmpty then
      return ← call.misused "you must specify a buffering mode option"
    becomeOr execute call (fun name => "failed to run command " ++ call.quoted name) args) { call with trouble := 125 }

/-- Starts a program in a session of its own. -/
def setsid (execute : Execute) : Tool := withOptionsFirst "c,ctty f,fork w,wait" noneOther
    fun _ args call => do
  match args with
  | [] => call.misused "no command specified"
  | name :: args =>
    let e ← execute { call with name, args }
    call.complain ("failed to execute " ++ name ++ ": " ++ e.description)
    return startStatus e

/-! ### Limited time -/

/-- Processes that a process has started, or those have started, and so on. -/
def descendants (world : World) (number : Nat) : List Nat :=
  (List.range world.processes.size).foldl (fun found i =>
    let other := World.firstNumber + i
    if found.contains (world.process other).parent then found ++ [other] else found) [number]

/-- A signal by its name or number. -/
def signal? (text : String) : Option Nat :=
  let name := text.toUpper
  let name := if name.startsWith "SIG" then (name.drop 3).toString else name
  match Signal.names.lookup name with
  | some signal => some signal
  | none => (text.toNat?).filter (· ≤ Signal.last)

/-- Sends a signal to a process and to those that it has started. -/
def sendToAll (number : Nat) (signal : Nat) : Act Unit := do
  for other in ← Act.view fun world => descendants world number do
    let _ ← Act.send other signal

/-- Waits for the end of a process, at most for some time. -/
def waitAtMost (number time : Nat) : Act (Option Ending) := do
  let now ← Act.view (·.clock)
  Act.awaitUntil (now + time) fun world => (world.process number).ending.isSome
  Act.view fun world => (world.process number).ending

/-- Starts a program and ends it when its time is over. -/
def timeout (execute : Execute) : Tool := fun call =>
  withOptionsFirst "k,kill-after= s,signal= v,verbose ,foreground ,preserve-status" noneOther
    (fun given args call => do
      let interval (text : String) : Act Nat := do
        match duration? text with
        | some time => return time
        | none => call.dismiss ("invalid time interval " ++ call.quoted text)
      let killAfter ← (given.value? "k").mapM interval
      let signal ← match given.value? "s" with
        | none => pure 15
        | some text =>
          match signal? text with
          | some signal => pure signal
          | none => call.dismiss (call.quoted text ++ ": invalid signal")
      match args with
      | [] | [_] => call.advise
      | limit :: name :: args =>
        let time ← interval limit
        let child ← Act.fork (do
          let e ← execute { call with name, args, trouble := 1 }
          call.complain ("failed to run command " ++ call.quoted name ++ ": " ++ e.description)
          return .status (startStatus e))
        let early ← if time = 0 then (some <$> Act.waitFor child) else waitAtMost child time
        let send (signal : Nat) : Act Unit := do
          if given.has "v" then
            let title := ((Signal.names.find? (·.2 == signal)).map (·.1)).getD (toString signal)
            call.complain ("sending signal " ++ title ++ " to command " ++ call.quoted name)
          sendToAll child signal
          if signal = 9 && !given.has "foreground" then Act.raise 9
        match early with
        | some (.status status) => return status
        | some (.signal signal) =>
          Act.raise signal
          return 128 + signal
        | none =>
          send signal
          let ending ← match killAfter with
            | some time => waitAtMost child time
            | none => some <$> Act.waitFor child
          let ending ← match ending with
            | some ending => pure ending
            | none => do
              send 9
              Act.waitFor child
          return if given.has "preserve-status" || ending = .signal 9 then ending.code else 124)
    { call with trouble := 125 }

end StagedBuild.Script.Tools
