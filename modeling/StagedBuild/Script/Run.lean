import StagedBuild.Script.Lookup

/-!
# Running scripts

What the commands of a script do. One step of a command is described in terms of the steps of the
commands inside it, so running goes as deep as commands are nested; `perform` is told how deep that
may be. Substitutions, subshells, pipelines and commands in the background are processes of their
own.
-/

namespace StagedBuild.Script

open Process

/-- How a command is carried out. -/
structure Mode where
  /-- Its failure does not end a shell that would otherwise end at the first failure. -/
  tested : Bool := false
  /-- It is the last thing that the process has to do. -/
  last : Bool := false
  deriving DecidableEq, Repr

/-- Carries out a command. -/
abbrev Perform := Mode → Command → Run Unit

/-- A script that is being read: the place in the text that is known, the channel from which more
can be read, and whether it is a file whose lines can be shown. -/
structure Source where
  cursor : Cursor
  more : Option Nat := none
  isFile : Bool := false

namespace Run

/-- How much of a script is read at once. -/
def blockSize : Nat := 8192

/-- Shows the part of a script that has been read, if that is asked for. -/
def showRead (source : Source) (text : List Char) : Run Unit := do
  if source.isFile && (← get).has 'v' then writeError (String.ofList text)

/-- The lines of a text up to a number. -/
def upToLine (text : List Char) (count : Nat) : List Char :=
  ['\n'].intercalate ((Text.splitOn '\n' text).take count)

/-- Runs the commands of a text line by line; whether there were any. At most `count` lines are
read. -/
def lines (perform : Perform) (mode : Mode) : (count : Nat) → Source → Run Bool
  | 0, _ => return false
  | count + 1, source => do
    let shell ← get
    let cursor := { source.cursor with
      documents := shell.documents, nextDocument := shell.documents.length
      aliases := shell.aliases }
    let read := Reader.line.run cursor
    let mayEnd := match read with
      | .ok (some _, after) => after.rest.isEmpty && (after.token matches some .ending ||
          after.nextDocument != cursor.nextDocument)
      | _ => true
    match source.more, mayEnd with
    | some channel, true =>
      let block := ((← Act.readChannel channel blockSize).toOption.getD .empty)
      let rest := cursor.rest ++ (Text.Octets.ofArray block).toList
      lines perform mode count { source with
        cursor := { source.cursor with rest }
        more := if block.isEmpty then none else some channel }
    | _, _ =>
      match read with
      | .error problem =>
        showRead source (upToLine cursor.rest (problem.line + 1 - cursor.line))
        modify fun shell => { shell with line := problem.line }
        fail problem.message
      | .ok (none, _) =>
        showRead source cursor.rest
        return false
      | .ok (some command, after) =>
        showRead source (cursor.rest.take (cursor.rest.length - after.rest.length))
        modify fun shell =>
          { shell with documents := after.documents, reading := after.line }
        let isCommand := match command with
          | .nothing => false
          | _ => true
        let isEnd := after.rest.isEmpty && (after.token matches some .ending)
        if isCommand then perform { mode with last := mode.last && isEnd } command
        let more ← lines perform mode count { source with cursor := after }
        return isCommand || more

/-- Runs the commands of a script. Without any, it succeeds. -/
def script (perform : Perform) (mode : Mode) (source : Source) : Run Unit := do
  let before := (← get).reading
  let ran ← lines perform mode Act.maxRounds source
  modify fun shell => { shell with reading := before }
  if !ran then setStatus 0

/-- Runs the commands of a text. -/
def source (perform : Perform) (tested : Bool) (text : String) : Run Unit :=
  script perform { tested } { cursor := { rest := text.toList } }

/-- Does something and says how it was left. -/
def contain (act : Run Unit) : Run (Option Jump) :=
  tryCatch (do
    act
    return none) fun jump => return some jump

/-- Does something as the last thing of a shell, and then what is to be done at the end. -/
def toTheEnd (perform : Perform) (act : Run Unit) : Run Unit := do
  let _ ← contain act
  let shell ← get
  match shell.traps.lookup 0 with
  | none => return
  | some action =>
    modify fun shell => { shell with
      traps := shell.traps.filter (·.1 != 0), ending := some shell.status, calling := none }
    let jump ← contain (source perform false action)
    if jump != some .failure then
      modify fun after => { after with status := after.ending.getD shell.status }

/-- Does something in a process of its own, which does not do what its parent does at signals. -/
def asChild (perform : Perform) (act : Run Unit) : Run Unit := do
  modify fun shell => { shell with
    traps := shell.traps.filter (·.2.isEmpty), jobs := [], ending := none }
  Act.change (·.setActor fun process => { process with caught := [], pending := [] })
  toTheEnd perform act

/-- Does something in a shell of its own, of which only what it does to the world stays; its
status. -/
def inSubshell (perform : Perform) (act : Run Unit) : Run Nat :=
  inChild (asChild perform act)

/-- What a command prints. -/
def capture (perform : Perform) : Command → Run String
  | .nothing => return ""
  | command => do
    let number ← newJobNumber
    let (reading, writing) ← Act.pipe
    let input ← Act.hide reading
    let output ← Act.hide writing
    let process ← fork do
      Act.connect 1 (some writing)
      Act.connect input none
      Act.connect output none
      asChild perform (perform { last := true } command)
    Act.connect output none
    let text := (← Act.readRest reading Act.maxRounds .empty).toOption.getD .empty
    Act.connect input none
    let status ← waitForJob ⟨number, [process], false⟩
    modify fun shell => { shell with substituted := status }
    return Text.Octets.ofArray text

/-- Ends a shell that is to end at the first failure. -/
def checkFailure (mode : Mode) : Run Unit := do
  let shell ← get
  if shell.has 'e' && !mode.tested && shell.status != 0 then
    modify fun shell => { shell with ending := shell.ending.map fun _ => shell.status }
    throw .exit

/-- Does something with descriptors that are put back afterwards. -/
def keeping {α : Type} (openings : List Opening) (act : Run α) : Run α := do
  if openings.isEmpty then act
  else
    let kept ← Act.keep (openings.map Opening.descriptor)
    thenAlways act (Act.putBack kept)

/-- Opens what redirections ask for; false if one fails. -/
def openAll (perform : Perform) (openings : List Opening) : Run Bool := do
  match ← contain (openings.forM (openAs (capture perform))) with
  | none => return true
  | some .failure => return false
  | some jump => throw jump

/-- How a round of a loop ended. -/
inductive Round where
  | done
  | again
  | left
  deriving DecidableEq, Repr

/-- A part of a round of a loop. -/
def round (act : Run Unit) : Run Round := do
  match ← contain act with
  | none => return .done
  | some (.leave loops) => if loops ≤ 1 then return .left else throw (.leave (loops - 1))
  | some (.proceed loops) => if loops ≤ 1 then return .again else throw (.proceed (loops - 1))
  | some jump => throw jump

/-- Goes round a loop over values, with the status of the last round. -/
def forRounds (name : String) (body : Run Unit) : List String → Run Unit
  | [] => return
  | value :: values => do
    assign name value
    match ← round body with
    | .left => return
    | _ => forRounds name body values

/-- Goes round a loop on a condition; its status is that of the last round, or `status`. -/
def loopRounds (untilSuccess : Bool) (condition body : Run Unit) :
    (count : Nat) → (status : Nat) → Run Unit
  | 0, _ => (Act.exhaust : Act Unit)
  | count + 1, status => do
    match ← round condition with
    | .left => setStatus status
    | .again => loopRounds untilSuccess condition body count status
    | .done =>
      if ((← get).status == 0) == untilSuccess then setStatus status
      else
        let round ← round body
        if round = .left then return
        loopRounds untilSuccess condition body count (← get).status

/-- Does something inside a loop. -/
def inLoop (act : Run Unit) : Run Unit := do
  modify fun shell => { shell with loops := shell.loops + 1 }
  restoring (fun before after => { after with loops := before.loops - 1 }) act

/-- How deep functions may call each other. -/
def maxCalls : Nat := 1000

/-- Calls a function with arguments. -/
def call (perform : Perform) (mode : Mode) (body : Command) (args : List String) : Run Unit := do
  if maxCalls ≤ (← get).calls then
    fail ("Maximum function recursion depth (" ++ toString maxCalls ++ ") reached")
  let inside : Run Unit := do
    modify fun shell => { shell with
      arguments := args, calls := shell.calls + 1, loops := 0
      optionIndex := 1, optionOffset := none }
    match ← contain (perform { tested := mode.tested } body) with
    | none | some .giveBack => return
    | some jump => throw jump
  withSaved (restoring (fun before after => { after with
    arguments := before.arguments, calls := before.calls, loops := before.loops
    optionIndex := before.optionIndex, optionOffset := before.optionOffset }) inside)

/-- Runs the commands in a file. -/
def dot (perform : Perform) (args : List String) : Run Nat := do
  let (_, args) ← Builtin.options [] [] args
  match args with
  | [] => return 0
  | name :: _ =>
    let path ← if name.contains '/' then pure name
      else match ← locate? false name with
        | some path => pure path
        | none => fail (name ++ ": not found")
    match ← (Act.readFile path : Act _) with
    | .error e =>
      if e = .isDirectory then return 0
      fail (openProblem false path e)
    | .ok text =>
      modify fun shell => { shell with calling := some path }
      let scripted : Run Unit := do
        modify fun shell => { shell with loops := 0 }
        match ← contain (script perform {} { cursor := { rest := text.toList }, isFile := true }) with
        | none | some .giveBack => return
        | some jump => throw jump
      restoring (fun before after => { after with loops := before.loops }) scripted
      return (← get).status

/-- Replaces the shell by a program. Without one, only redirections count. -/
def exec (shell : Tool) (args : List String) : Run Nat := do
  let (_, args) ← Builtin.options [] [] args
  match args with
  | [] => return 0
  | name :: args => becomeOrExit shell name args

/-- A command of the shell, if the name is that of one. -/
def builtin? (perform : Perform) (shell : Tool) (mode : Mode) (name : String) :
    Option (List String → Run Nat) :=
  match name with
  | "eval" => some fun args => do
    source perform mode.tested (" ".intercalate args)
    return (← get).status
  | "." => some (dot perform)
  | "exec" => some (exec shell)
  | "type" => some type
  | "hash" => some hash
  | _ => Builtin.find? name

/-- Runs a command of the shell. Its failure ends the shell only if it is `special`. -/
def contained (special : Bool) (name : String) (body : Run Nat) : Run Unit :=
  restoring (fun before after => { after with calling := before.calling }) do
    modify fun shell => { shell with calling := some name }
    let act : Run Unit := do
      let status ← body
      setStatus status
    match ← contain act with
    | none => return
    | some .failure => if special then throw .failure
    | some jump => throw jump

/-- Runs what fields name: a function, a command of the shell or a program. -/
def invoke (perform : Perform) (shell : Tool) (mode : Mode) :
    (functions special : Bool) → (fields : List String) → Run Unit
  | _, _, [] => return
  | functions, special, name :: args => do
    let known := (← get).functions
    match (if functions then known.lookup name else none) with
    | some body => call perform mode body args
    | none =>
      match builtin? perform shell mode name with
      | some body => contained special name (body args)
      | none => setStatus (← program shell mode.last name args)

/-- The fields of a call: assignments behind a command that makes assignments stay whole. -/
def callFields (capture : Command → Run String) (assigning : Bool) : List Word → Run (List String)
  | [] => return []
  | word :: words => do
    let found ← match assigning, word.assignment? with
      | true, some (name, value) => do
        let value ← textOf capture .assigned value
        pure [name ++ "=" ++ value]
      | _, _ => fieldsOf capture word
    return found ++ (← callFields capture assigning words)

/-- The fields of the words up to the first that gives any, and the words that follow it. -/
def firstFields (capture : Command → Run String) : List Word → Run (List String × List Word)
  | [] => return ([], [])
  | word :: words => do
    match ← fieldsOf capture word with
    | [] => firstFields capture words
    | found => return (found, words)

/-- A command after which assignments are words that stay whole. -/
def isAssigning (name : String) : Bool :=
  ["export", "local", "readonly"].contains name

/-- What stands behind `command` and its options, if that is what fields start with; how the command
is to be described instead of run; and whether there was such a word. -/
def withoutCommand : (count : Nat) → (fields : List String) →
    Run (Option Bool × List String × Bool)
  | 0, fields => return (none, fields, false)
  | count + 1, fields => do
    match fields with
    | "command" :: args =>
      if (← get).functions.any (·.1 == "command") then return (none, fields, false)
      let (describing, rest) ← commandArguments args
      if describing.isSome || rest.isEmpty then return (describing, rest, true)
      let (describing, rest, _) ← withoutCommand count rest
      return (describing, rest, true)
    | _ => return (none, fields, false)

/-- Shows a command before it is run, on the channel for errors that was open before its
redirections. -/
def trace (perform : Perform) (errors : Option Nat) (texts : List String) : Run Unit := do
  if (← get).has 'x' then
    let mark ← textOf (capture perform) .nowhere
      (Reader.template (((← get).valueOf? "PS4").getD ""))
    let text := Text.Octets.toArray (mark ++ " ".intercalate texts ++ "\n")
    match errors with
    | none => return
    | some channel =>
      let _ ← Act.writeChannel channel (text.size + 1) text

/-- Carries out assignments: for the shell, or for the command that is being called. Their texts
are shown with the command. -/
def assignAll (perform : Perform) (forCall exported : Bool) : List Word → Run (List String)
  | [] => return []
  | word :: words => do
    match word.assignment? with
    | none => assignAll perform forCall exported words
    | some (name, value) =>
      let value ← textOf (capture perform) .assigned value
      checkWritable name
      if forCall then save name
      assign name value
      if forCall || exported then change name fun found => { found with exported := true }
      return (name ++ "=" ++ value) :: (← assignAll perform forCall exported words)

/-- Carries out a call. -/
def simple (perform : Perform) (shell : Tool) (mode : Mode)
    (assignments words : List Word) (redirects : List Redirect) : Run Unit := do
  modify fun shell => { shell with substituted := 0 }
  let (first, rest) ← firstFields (capture perform) words
  let name := first.head?.getD ""
  let assigning := isAssigning name ||
    (name == "command" && (rest.head?.bind Word.plain?).any isAssigning)
  let fields := first ++ (← callFields (capture perform) assigning rest)
  let before ← get
  let isFunction := before.functions.any (·.1 == name)
  let special := !isFunction && isSpecialName name
  let openings ← redirects.mapM (opening (capture perform))
  let errors ← (if before.has 'x' then Act.channel? 2 else pure none : Act _)
  let act : Run Bool := do
    if !(← openAll perform openings) then
      if special then throw .failure
      return false
    let forCall := !fields.isEmpty && !special
    let body : Run Unit := do
      let shown ← assignAll perform forCall (name == "exec" && fields.length > 1) assignments
      trace perform errors (shown ++ fields)
      if fields.isEmpty then setStatus (← get).substituted
      else if isFunction || name != "command" then
        invoke perform shell mode true special fields
      else
        contained false name do
          let (describing, fields, _) ← withoutCommand (fields.length + 1) fields
          modify fun shell => { shell with calling := before.calling }
          match describing, fields with
          | some short, name :: _ => describe short true name
          | _, _ => do
            setStatus 0
            invoke perform shell mode false false fields
            return (← get).status
    if forCall then withSaved body else body
    return true
  let keeps := name == "exec" && !isFunction
  if keeps then
    let _ ← act
  else
    let _ ← keeping openings act
  checkFailure mode

/-- The first clause with a pattern that a text fits. -/
def matching? (perform : Perform) (text : String) : List Clause → Run (Option Command)
  | [] => return none
  | .mk patterns body :: clauses => do
    if ← anyFits patterns then return some body
    else matching? perform text clauses
where
  /-- One of the patterns fits. -/
  anyFits : List Word → Run Bool
    | [] => return false
    | word :: words => do
      let pattern ← patternOf (capture perform) word
      if pattern.accepts text then return true else anyFits words

/-- Lets a process that was started in the background ignore what a user sends to the one in front
of them. -/
def enterBackground : Run Unit := do
  modify fun shell => { shell with deaf := [2, 3] ++ shell.deaf }
  Act.change (·.setActor fun process => { process with ignored := [2, 3] ++ process.ignored })

/-- Lets a process read nothing. -/
def readNothing : Run Unit := do
  match ← (Act.openPath .reading "/dev/null" : Act _) with
  | .ok channel => Act.connect 0 (some channel)
  | .error _ => return

/-- Runs a command in the background, where its end is not waited for. -/
def background (perform : Perform) (body : Command) : Run Unit := do
  let number ← newJobNumber
  let process ← fork do
    enterBackground
    readNothing
    asChild perform (perform { last := true } body)
  addJob number [process]
  setStatus 0

/-- Remembers where the program of a call is found. -/
def rememberFirst : Command → Run Unit
  | .simple _ _ (word :: _) _ => do
    match Word.plain? word with
    | some name =>
      let isKnown := (← get).functions.any (·.1 == name) || Builtin.isBuiltin name
      if isName name && !isKnown then remember name
    | none => return
  | _ => return

/-- The commands that are joined by pipes. -/
def stagesOf : Command → List Command
  | .pipe first second => first :: stagesOf second
  | command => [command]

/-- Starts commands, each of which reads what the one before it prints; `input` is the descriptor
that keeps the end of the pipe from that. Their processes. -/
def startStages (perform : Perform) (mode : Mode) (inBackground : Bool) :
    (input : Option Nat) → List Command → Run (List Nat)
  | _, [] => return []
  | input, stage :: rest => do
    rememberFirst stage
    let ends ← (if rest.isEmpty then pure none else some <$> Act.pipe : Act _)
    let kept ← (match ends with
      | none => pure none
      | some (reading, writing) => do
        let reading ← Act.hide reading
        return some (reading, ← Act.hide writing) : Act _)
    let process ← fork do
      if inBackground then
        enterBackground
        if input.isNone then readNothing
      if let some input := input then
        Act.connect 0 (← (Act.channel? input : Act _))
        Act.connect input none
      if let some (_, writing) := ends then Act.connect 1 (some writing)
      if let some (reading, writing) := kept then
        Act.connect reading none
        Act.connect writing none
      asChild perform (perform { mode with last := true } stage)
    if let some input := input then Act.connect input none
    if let some (_, writing) := kept then Act.connect writing none
    return process :: (← startStages perform mode inBackground (kept.map (·.1)) rest)

/-- Runs commands that are joined by pipes. -/
def pipeline (perform : Perform) (mode : Mode) (inBackground : Bool) (stages : List Command) :
    Run Unit := do
  let number ← newJobNumber
  let processes ← startStages perform mode inBackground none stages
  if inBackground then
    addJob number processes
    setStatus 0
  else
    setStatus (← waitForJob ⟨number, processes, false⟩)
    checkFailure mode

/-- One step of a command, by the steps of those inside it. -/
def step (perform : Perform) (shell : Tool) (mode : Mode) : Command → Run Unit
  | .nothing => return
  | .simple line assignments words redirects => do
    modify fun shell => { shell with line }
    simple perform shell mode assignments words redirects
  | .redirected line body redirects => do
    modify fun shell => { shell with line }
    let openings ← redirects.mapM (opening (capture perform))
    keeping openings do
      if ← openAll perform openings then perform { tested := mode.tested } body
      else checkFailure mode
  | .sequence first second => do
    perform { tested := mode.tested } first
    perform mode second
  | .andThen first second => do
    perform { tested := true } first
    if (← get).status = 0 then perform mode second
  | .orElse first second => do
    perform { tested := true } first
    if (← get).status != 0 then perform mode second
  | .negated body => do
    let jump ← contain (perform { tested := true } body)
    let invert : Run Unit :=
      modify fun shell => { shell with status := if shell.status = 0 then 1 else 0 }
    match jump with
    | none => invert
    | some .giveBack => do
      invert
      throw .giveBack
    | some jump => throw jump
  | .pipe first second => pipeline perform mode false (first :: stagesOf second)
  | .background (.pipe first second) => pipeline perform {} true (first :: stagesOf second)
  | .background body => background perform body
  | .forEach line name words body => do
    modify fun shell => { shell with line }
    let values ← allFields (capture perform) words
    setStatus 0
    inLoop (forRounds name (perform { tested := mode.tested } body) values)
  | .loop untilSuccess condition body =>
    inLoop (loopRounds untilSuccess (perform { tested := true } condition)
      (perform { tested := mode.tested } body) Act.maxRounds 0)
  | .choice condition positive negative => do
    perform { tested := true } condition
    if (← get).status = 0 then perform mode positive
    else
      setStatus 0
      perform mode negative
  | .select line subject clauses => do
    modify fun shell => { shell with line }
    let text ← textOf (capture perform) .front subject
    match ← matching? perform text clauses with
    | none | some .nothing => setStatus 0
    | some body => perform mode body
  | .subshell line body redirects => do
    modify fun shell => { shell with line }
    let openings ← redirects.mapM (opening (capture perform))
    let inside : Run Unit := do
      openings.forM (openAs (capture perform))
      perform { mode with last := true } body
    if mode.last && !(← get).hasTraps then inside
    else setStatus (← inSubshell perform inside)
    checkFailure mode
  | .define name body =>
    modify fun shell => { shell with
      functions := (name, body) :: shell.functions.filter (·.1 != name), status := 0 }

/-- Takes the signals that have come and are to be handled. -/
def takePending : Act (List Signal) :=
  Act.sys fun world =>
    match world.actor.pending with
    | [] => ([], world)
    | found => (found, world.setActor fun process => { process with pending := [] })

/-- Does what is to be done for the signals that have come. The status stays as it was. -/
def deliver (perform : Perform) : Run Unit := do
  match ← (takePending : Act _) with
  | [] => return
  | found =>
    for signal in found.eraseDups.mergeSort do
      let shell ← get
      match shell.traps.lookup signal with
      | some action =>
        source perform false action
        setStatus shell.status
      | none => pure ()

/-- Starts a shell: it reads its options, and then runs a text it was given, a file or its
input. -/
def main (perform : Perform) (args : List String) : Run Unit := do
  let (special, rest, _) ← Builtin.shellOptions ['c', 'l'] (args.length + 1) args
  match special.contains 'c', rest with
  | true, [] => fail "-c requires an argument"
  | true, text :: rest => do
    modify fun shell => { shell with
      name := rest.head?.getD shell.name, arguments := rest.tail }
    let fromInput := (← get).has 's'
    script perform { last := !fromInput } { cursor := { rest := text.toList } }
    if fromInput then input rest.tail
  | false, file :: arguments => do
    if (← get).has 's' then input (file :: arguments)
    else
      match ← (Act.readFile file : Act _) with
      | .error e => if e != .isDirectory then fail (openProblem false file e)
      | .ok text =>
        modify fun shell => { shell with name := file, arguments }
        script perform {} { cursor := { rest := text.toList }, isFile := true }
  | false, [] => input []
where
  /-- Runs the commands that the input holds. -/
  input (arguments : List String) : Run Unit := do
    modify fun shell => { shell with arguments }
    match ← (Act.channel? 0 : Act _) with
    | some channel =>
      script perform {} { cursor := { rest := [] }, more := some channel, isFile := true }
    | none => return

end Run

namespace Shell

/-- The path of the directory that the process is in: the one that the environment names, if that
leads there. -/
def startPath (environment : List (String × String)) : Act String :=
  Act.viewTree fun tree dir =>
    match environment.lookup "PWD" with
    | some path =>
      if path.startsWith "/" && (tree.find dir path).toOption == some dir then path
      else physical tree dir
    | none => physical tree dir
where
  /-- Where the directory really is. -/
  physical (tree : FileTree) (dir : NodeId) : String :=
    match tree.placeOf? dir with
    | some names => "/" ++ "/".intercalate names
    | none => ""

/-- A shell that starts with the variables of its environment. -/
def ofCall (call : Call) : Act Shell := do
  let path ← startPath call.environment
  let process ← Act.view (·.actor)
  let given := (call.environment.filter fun (name, _) => isName name).map fun (name, value) =>
    (name, (⟨some value, true, false⟩ : Variable))
  let own : List (String × Variable) :=
    [("IFS", ⟨some " \t\n", false, false⟩), ("OPTIND", ⟨some "1", false, false⟩),
     ("PATH", ⟨some Program.defaultPath, false, false⟩),
     ("PS1", ⟨some "# ", false, false⟩), ("PS2", ⟨some "> ", false, false⟩),
     ("PS4", ⟨some "+ ", false, false⟩),
     ("PPID", ⟨some (toString process.parent), false, false⟩),
     ("PWD", ⟨some path, true, false⟩)]
  let kept := given.filter fun (name, _) =>
    !(["IFS", "OPTIND", "PWD", "PPID"].contains name)
  let own := own.filter fun (name, _) => !(kept.map (·.1)).contains name
  return { path, number := ← Act.number, name := call.name, bindings := own ++ kept
           deaf := process.ignored }

/-- Runs a shell to the end of its process. -/
def run (perform : Perform) : Tool := fun call => do
  let shell ← ofCall call
  let act := Run.toTheEnd perform (Run.main perform call.args)
  fun next =>
    let done (shell : Shell) : Course := next (shell.status % 256)
    act shell (fun _ => done) (fun _ => done)

end Shell

/-- Carries out a command; commands may be nested `depth` deep. -/
def perform : (depth : Nat) → Perform
  | 0, _, _ => (Act.exhaust : Act Unit)
  | depth + 1, mode, command => do
    if (← get).has 'n' then return
    Run.deliver (perform depth)
    Run.step (perform depth) (Shell.run (perform depth)) mode command
    Run.deliver (perform depth)

end StagedBuild.Script
