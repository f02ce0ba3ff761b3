import StagedBuild.Script.Builtin.Variables

/-!
# Options and arguments of a shell

Options have letters and names; a shell is given them when it starts, and a script can change them
and the arguments.
-/

namespace StagedBuild.Script.Builtin

/-- The options that have letters, with their names. -/
def optionNames : List (Char × String) :=
  [('e', "errexit"), ('f', "noglob"), ('I', "ignoreeof"), ('i', "interactive"), ('m', "monitor"),
   ('n', "noexec"), ('s', "stdin"), ('x', "xtrace"), ('v', "verbose"), ('V', "vi"),
   ('E', "emacs"), ('C', "noclobber"), ('a', "allexport"), ('b', "notify"), ('u', "nounset"),
   ('p', "privileged")]

/-- Options in the order in which they are shown. -/
def ordered (letters : List Char) : List Char :=
  ((optionNames.map (·.1)).filter letters.contains).reverse

/-- Turns an option on or off. -/
def setOption (letter : Char) (on : Bool) : Run Unit := do
  if !(optionNames.map (·.1)).contains letter then
    Run.fail ("Illegal option -" ++ letter.toString)
  if letter = 'm' ∧ on then
    Run.report "can't access tty; job control turned off"
  else modify fun shell =>
    let others := shell.options.filter (· != letter)
    { shell with options := ordered (if on then letter :: others else others) }

/-- Shows which options are on. -/
def showOptions (asCommands : Bool) : Run Unit := do
  let shell ← get
  let names := optionNames ++ [('\x00', "nolog"), ('\x00', "debug")]
  let line (letter : Char) (name : String) : String :=
    if asCommands then "set " ++ (if shell.has letter then "-" else "+") ++ "o " ++ name ++ "\n"
    else name ++ String.ofList (List.replicate (16 - name.length) ' ') ++
      (if shell.has letter then "on" else "off") ++ "\n"
  let _ ← say ((if asCommands then "" else "Current option settings\n") ++
    String.join (names.map fun (letter, name) => line letter name))

/-- Turns an option on or off by its name, or shows all of them. -/
def setByName (on : Bool) : List String → Run (List String)
  | [] => do
    showOptions (!on)
    return []
  | name :: args => do
    match optionNames.find? (·.2 == name) with
    | some (letter, _) => setOption letter on
    | none =>
      if name != "nolog" && name != "debug" then Run.fail ("Illegal option -o " ++ name)
    return args

/-- Turns options on or off from letters; which of the letters stand for more than options, and the
arguments that are left. -/
def setLetters (special : List Char) (on : Bool) :
    List Char → List String → Run (List Char × List String)
  | [], args => return ([], args)
  | 'o' :: letters, args => do
    let args ← setByName on args
    setLetters special on letters args
  | letter :: letters, args => do
    if special.contains letter then
      let (found, args) ← setLetters special on letters args
      return (letter :: found, args)
    setOption letter on
    setLetters special on letters args

/-- Reads the options of a shell: which `special` letters were given, the arguments that are left,
and whether something ended the options. -/
def shellOptions (special : List Char) :
    (count : Nat) → List String → Run (List Char × List String × Bool)
  | 0, args => return ([], args, false)
  | count + 1, args => do
    match args with
    | [] => return ([], [], false)
    | arg :: rest =>
      match arg.toList with
      | ['-'] =>
        if special.isEmpty then
          setOption 'x' false
          setOption 'v' false
        return ([], rest, true)
      | ['-', '-'] => return ([], rest, true)
      | sign :: letters =>
        if sign = '-' ∨ sign = '+' then
          let (found, rest) ← setLetters special (sign == '-') letters rest
          let (more, rest, ended) ← shellOptions special count rest
          return (found ++ more, rest, ended)
        else return ([], args, false)
      | [] => return ([], args, false)

/-- Sets options and arguments, or lists all variables. -/
def set : Body := fun args => do
  if args.isEmpty then list "" (·.value.isSome)
  else
    let (_, rest, ended) ← shellOptions [] (args.length + 1) args
    if !rest.isEmpty || (ended && args.contains "--") then
      modify (·.setArguments rest)
    return 0

/-- Drops arguments at the front. -/
def shift : Body := fun args => do
  let count ← match args with
    | [] => pure 1
    | arg :: _ => number arg
  let shell ← get
  if shell.arguments.length < count then Run.fail "can't shift that many"
  modify (·.setArguments (shell.arguments.drop count))
  return 0

end StagedBuild.Script.Builtin
