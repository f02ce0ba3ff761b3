import StagedBuild.Script.Builtin
import StagedBuild.Script.Program

/-!
# Looking for commands

A name at the start of a call stands for a keyword, an alias, a function, a command of the shell or
a program. The shell remembers where it has found programs.
-/

namespace StagedBuild.Script.Run

open Process

/-- The paths that a command name may stand for, in the search path of the shell. -/
def candidates (name : String) : Run (List String) :=
  return Program.candidates (((← get).valueOf? "PATH").getD "") name

/-- There is a file at a path, which can be started if that is `needed`. -/
def isFileAt (needed : Bool) (tree : FileTree) (dir : NodeId) (path : String) : Bool :=
  match tree.find dir path with
  | .ok id =>
    match tree.content id with
    | .file _ | .program _ => !needed || (tree.node id).rights &&& 73 != 0
    | _ => false
  | .error _ => false

/-- The first of the paths of a name where there is a file, which can be started if that is
`needed`. -/
def locate? (needed : Bool) (name : String) : Run (Option String) := do
  let paths ← candidates name
  Act.viewTree fun tree dir => paths.find? (isFileAt needed tree dir)

/-- Remembers where a program was found. -/
def rememberAt (name path : String) : Run Unit :=
  modify fun shell => { shell with
    remembered := shell.remembered.filter (·.1 != name) ++ [(name, path, false)] }

/-- Remembers where a program was found that has no slash in its name. -/
def remember (name : String) : Run Unit := do
  if !name.contains '/' && !(← get).remembered.any fun found => found.1 == name && !found.2.2 then
    match ← locate? true name with
    | some path => rememberAt name path
    | none => return

/-- Lets the process become a program; the error if it cannot. A file without an interpreter is a
script of the shell. -/
def become (shell : Tool) (name : String) (args : List String) : Run OsError := do
  let environment := (← get).environment
  let start (path : String) : Act OsError := do
    let call : Call := { name, args, environment }
    match ← Program.become shell Program.maxStarts Program.maxScripts path call with
    | .notProgram => Program.run shell { call with name := "/bin/sh", args := path :: args }
    | e => return e
  Program.firstOf start .notFound (← candidates name)

/-- Says why a program could not be started. -/
def refuse (name : String) (e : OsError) : Run Nat := do
  match e with
  | .notFound | .notDirectory =>
    report (name ++ ": not found")
    return 127
  | e =>
    report (name ++ ": " ++ e.description)
    return if e = .nameTooLong ∨ e = .tooManyLinks then 127 else 126

/-- Becomes a program, or says why not and ends. -/
def becomeOrExit (shell : Tool) (name : String) (args : List String) : Run Nat := do
  let e ← become shell name args
  exit (← refuse name e)

/-- Runs a program and waits for its end, if it is not the last thing the shell has to do. -/
def program (shell : Tool) (isLast : Bool) (name : String) (args : List String) : Run Nat := do
  if !name.contains '/' && (← locate? true name).isNone then
    let paths ← candidates (if name.isEmpty then "." else name)
    let isThere ← (Act.viewTree fun tree dir => paths.any (tree.isPresent dir) : Act Bool)
    report (name ++ if isThere then ": Permission denied" else ": not found")
    return 127
  remember name
  if isLast && !(← get).hasTraps then becomeOrExit shell name args
  else inChild do
    let _ ← becomeOrExit shell name args

/-- What a name stands for among commands: its description, or only how it is called. -/
def describe (short functions : Bool) (name : String) : Run Nat := do
  let shell ← get
  let say (text : String) : Run Nat :=
    Builtin.say ((if short then name else name ++ " is " ++ text) ++ "\n")
  let «alias» := shell.aliases.lookup name
  if (Keyword.ofText? name).isSome then say "a shell keyword"
  else if let some value := «alias» then
    if short then Builtin.say ("alias " ++ Builtin.aliasLine name value)
    else say ("an alias for " ++ value)
  else if functions && (shell.functions.lookup name).isSome then say "a shell function"
  else if Builtin.isBuiltin name then
    say (if isSpecialName name then "a special shell builtin" else "a shell builtin")
  else
    let known := shell.remembered.lookup name
    match known.map (·.1) <|> (← locate? true name) with
    | some path =>
      if known.isNone && !name.contains '/' then rememberAt name path
      if short then Builtin.say (path ++ "\n")
      else say ((if known.isSome then "a tracked alias for " else "") ++ path)
    | none =>
      if !short then
        let _ ← Builtin.say (name ++ ": not found\n")
      return 127

/-- Describes names. -/
def type : List String → Run Nat
  | [] => return 0
  | name :: names => do
    let status ← describe false true name
    return max status (← type names)

/-- Looks for commands and says which there are not. -/
def lookFor : List String → Run Nat
  | [] => return 0
  | name :: names => do
    let isCommand := (← get).functions.any (·.1 == name) || Builtin.isBuiltin name ||
      name.contains '/'
    let status ←
      if isCommand then pure 0
      else match ← locate? true name with
        | some path =>
          rememberAt name path
          pure 0
        | none =>
          report (name ++ ": not found")
          pure 1
    return max status (← lookFor names)

/-- Remembered programs come in groups, by the characters of their names. -/
def rememberedGroup (name : String) : Nat :=
  Shell.nameCode name % 32768 % 31

/-- Looks for commands, or shows the programs that have been found; with `-r` they are forgotten. -/
def hash (args : List String) : Run Nat := do
  let (found, names) ← Builtin.options ['r'] [] args
  if !found.isEmpty then
    modify fun shell => { shell with remembered := [] }
    return 0
  else if names.isEmpty then
    let shown := (← get).remembered.mergeSort
      fun a b => rememberedGroup a.1 ≤ rememberedGroup b.1
    Builtin.say (String.join (shown.map fun (_, path, stale) =>
      path ++ (if stale then "*" else "") ++ "\n"))
  else lookFor names

/-- The command that arguments of `command` name, with how it is to be described instead of run. -/
def commandArguments (args : List String) : Run (Option Bool × List String) := do
  let (found, args) ← Builtin.options ['p', 'v', 'V'] [] args
  return ((found.reverse.find? fun (letter, _) => letter != 'p').map (·.1 == 'v'), args)

end StagedBuild.Script.Run
