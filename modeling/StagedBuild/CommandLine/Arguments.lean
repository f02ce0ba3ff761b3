/-!
# Command line arguments

The grammar of the command line. Options may stand before or after the other arguments of a
command; short options may be joined, and the value of an option may follow it directly, after an
equals sign, or as the next argument. After two dashes nothing is an option. Each option may be
given once a level: the general ones once before the command and once after it.
-/

namespace StagedBuild.CommandLine

/-- How much is reported. -/
structure Verbosity where
  verbose : Bool := false
  quiet : Bool := false
  deriving DecidableEq, Repr

/-- What the command line asks for. -/
inductive Command where
  | compile (files : List String) (output config : String)
  | run (output config : String) (arguments : List String)
  | config (config : String)
  | completions (shell : String)
  deriving DecidableEq, Repr

/-- The meaning of a command line. -/
inductive Request where
  | command (verbosity : Verbosity) (command : Command)
  | version
  | help
  deriving DecidableEq, Repr

/-- Shells that completions are made for. -/
def shells : List String := ["bash", "elvish", "fish", "powershell", "zsh"]

/-- What a level of the grammar accepts. -/
structure Grammar where
  /-- `-o` and `--output` take a value. -/
  takesOutput : Bool := false
  /-- `-c` and `--config` take a value, which may not be empty. -/
  takesConfig : Bool := false
  /-- An argument that is no option is accepted after `count` others. -/
  takesOperand : (count : Nat) → String → Bool := fun _ _ => false
  /-- Arguments after two dashes are accepted. -/
  takesRest : Bool := false

/-- The options and arguments found so far. -/
structure Found where
  verbose : Bool := false
  quiet : Bool := false
  output : Option String := none
  config : Option String := none
  operands : List String := []
  rest : List String := []
  deriving DecidableEq, Repr

/-- How reading the options ends early. -/
inductive Stop where
  | help
  | usage
  deriving DecidableEq, Repr

/-- An option of a command. -/
inductive OptionName where
  | verbose
  | quiet
  | help
  | output
  | config
  deriving DecidableEq, Repr

namespace OptionName

/-- The option with this letter. -/
def ofLetter? (grammar : Grammar) : Char → Option OptionName
  | 'v' => some .verbose
  | 'q' => some .quiet
  | 'h' => some .help
  | 'o' => if grammar.takesOutput then some .output else none
  | 'c' => if grammar.takesConfig then some .config else none
  | _ => none

/-- The option with this long name. -/
def ofLong? (grammar : Grammar) : String → Option OptionName
  | "verbose" => some .verbose
  | "quiet" => some .quiet
  | "help" => some .help
  | "output" => if grammar.takesOutput then some .output else none
  | "config" => if grammar.takesConfig then some .config else none
  | _ => none

/-- The option takes a value. -/
def takesValue : OptionName → Bool
  | .output | .config => true
  | .verbose | .quiet | .help => false

end OptionName

namespace Found

/-- Adds an option without a value. -/
def addSwitch (found : Found) : OptionName → Except Stop Found
  | .verbose => if found.verbose then .error .usage else .ok { found with verbose := true }
  | .quiet => if found.quiet then .error .usage else .ok { found with quiet := true }
  | .help => .error .help
  | .output | .config => .error .usage

/-- Adds an option with its value. -/
def addValue (found : Found) (name : OptionName) (value : String) : Except Stop Found :=
  match name with
  | .output =>
    if found.output.isSome then .error .usage else .ok { found with output := some value }
  | .config =>
    if found.config.isSome || value.isEmpty then .error .usage
    else .ok { found with config := some value }
  | .verbose | .quiet | .help => .error .usage

end Found

/-- The argument cannot be the value of the option before it. -/
def looksLikeOption (arg : String) : Bool :=
  match arg.toList with
  | '-' :: _ :: _ => true
  | _ => false

/-- Reads joined short options. The value of the last may be joined too; if it is missing, the
option that waits for it is returned. -/
def readLetters (grammar : Grammar) (found : Found) :
    List Char → Except Stop (Found × Option OptionName)
  | [] => .ok (found, none)
  | letter :: rest =>
    match OptionName.ofLetter? grammar letter with
    | none => .error .usage
    | some name =>
      if name.takesValue then
        match rest with
        | [] => .ok (found, some name)
        | '=' :: value => (found.addValue name (String.ofList value)).map (·, none)
        | value => (found.addValue name (String.ofList value)).map (·, none)
      else
        match found.addSwitch name with
        | .ok found => readLetters grammar found rest
        | .error stop => .error stop

/-- Reads a long option after its two dashes. -/
def readLong (grammar : Grammar) (found : Found) (text : List Char) :
    Except Stop (Found × Option OptionName) :=
  let long := text.takeWhile (· != '=')
  match OptionName.ofLong? grammar (String.ofList long), text.drop long.length with
  | none, _ => .error .usage
  | some name, [] =>
    if name.takesValue then .ok (found, some name) else (found.addSwitch name).map (·, none)
  | some name, _ :: value =>
    if name.takesValue then (found.addValue name (String.ofList value)).map (·, none)
    else .error .usage

/-- Takes an argument that is no option. -/
def readOperand (grammar : Grammar) (found : Found) (arg : String) : Except Stop Found :=
  if grammar.takesOperand found.operands.length arg then
    .ok { found with operands := found.operands ++ [arg] }
  else .error .usage

/-- Reads the arguments of a command. `waiting` is an option whose value comes next. -/
def readArguments (grammar : Grammar) :
    (waiting : Option OptionName) → Found → List String → Except Stop Found
  | none, found, [] => .ok found
  | some _, _, [] => .error .usage
  | some name, found, arg :: rest =>
    if looksLikeOption arg then .error .usage
    else match found.addValue name arg with
      | .ok found => readArguments grammar none found rest
      | .error stop => .error stop
  | none, found, arg :: rest =>
    match arg.toList with
    | ['-', '-'] =>
      if rest.isEmpty then .ok found
      else if grammar.takesRest then .ok { found with rest }
      else rest.foldlM (readOperand grammar) found
    | '-' :: '-' :: text =>
      match readLong grammar found text with
      | .ok (found, waiting) => readArguments grammar waiting found rest
      | .error stop => .error stop
    | '-' :: letter :: letters =>
      match readLetters grammar found (letter :: letters) with
      | .ok (found, waiting) => readArguments grammar waiting found rest
      | .error stop => .error stop
    | _ =>
      match readOperand grammar found arg with
      | .ok found => readArguments grammar none found rest
      | .error stop => .error stop

/-- The output directory if none is named. -/
def defaultOutput : String := "build"

/-- The configuration file if none is named. -/
def defaultConfig : String := "wyvern.toml"

/-- Refuses options that exclude each other. -/
def Found.check (found : Found) : Except Stop Found :=
  if found.verbose && found.quiet then .error .usage else .ok found

/-- The names of the commands. -/
def commandNames : List String := ["compile", "run", "config", "completions", "help"]

/-- Asks for help, on one command or on all. -/
def readHelp : List String → Stop
  | [] => .help
  | [name] => if commandNames.contains name then .help else .usage
  | _ => .usage

/-- The command of this name with its arguments. -/
def readCommand (name : String) (args : List String) : Except Stop (Found × Command) := do
  let read (grammar : Grammar) : Except Stop Found := readArguments grammar none {} args
  match name with
  | "compile" =>
    let found ← read
      { takesOutput := true, takesConfig := true, takesOperand := fun _ file => !file.isEmpty }
    if found.operands.isEmpty then throw .usage
    let found ← found.check
    return (found, .compile found.operands (found.output.getD defaultOutput)
      (found.config.getD defaultConfig))
  | "run" =>
    let found ← read { takesOutput := true, takesConfig := true, takesRest := true }
    let found ← found.check
    return (found, .run (found.output.getD defaultOutput) (found.config.getD defaultConfig)
      found.rest)
  | "config" =>
    let found ← read { takesConfig := true }
    let found ← found.check
    return (found, .config (found.config.getD defaultConfig))
  | "completions" =>
    let found ← read
      { takesOperand := fun count shell => count == 0 && shells.contains shell }
    let found ← found.check
    match found.operands with
    | [shell] => return (found, .completions shell)
    | _ => throw .usage
  | "help" => throw (readHelp args)
  | _ => throw .usage

/-- Reads joined short options before the command. -/
def readTopLetters (found : Found) : List Char → Except Stop (Found × Bool)
  | [] => .ok (found, false)
  | 'V' :: _ => .ok (found, true)
  | letter :: rest =>
    match OptionName.ofLetter? {} letter with
    | none => .error .usage
    | some name =>
      match found.addSwitch name with
      | .ok found => readTopLetters found rest
      | .error stop => .error stop

/-- Reads a command line. -/
def readRequest (found : Found) : List String → Except Stop Request
  | [] => .error .usage
  | arg :: rest =>
    match arg.toList with
    | ['-'] | ['-', '-'] => .error .usage
    | '-' :: '-' :: text =>
      if text = "version".toList then .ok .version
      else match readLong {} found text with
        | .ok (found, _) => readRequest found rest
        | .error stop => .error stop
    | '-' :: letters =>
      match readTopLetters found letters with
      | .ok (_, true) => .ok .version
      | .ok (found, false) => readRequest found rest
      | .error stop => .error stop
    | _ => do
      let (inner, command) ← readCommand arg rest
      let _ ← found.check
      return .command ⟨found.verbose || inner.verbose, found.quiet || inner.quiet⟩ command

/-- The meaning of a command line; nothing if it does not fit the grammar. -/
def Request.ofArguments? (args : List String) : Option Request :=
  match readRequest {} args with
  | .ok request => some request
  | .error .help => some .help
  | .error .usage => none

end StagedBuild.CommandLine
