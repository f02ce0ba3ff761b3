import StagedBuild.Script.Tools.Call

/-!
# Options of tools

Options have letters and long names, which may be cut short. Options and other arguments may stand
in any order, unless a tool asks for the options first.
-/

namespace StagedBuild.Script.Tools

open Process

/-- Whether an option takes a value. -/
inductive Takes where
  | nothing
  | value
  /-- Only if it stands in the same argument. -/
  | perhaps
  deriving DecidableEq, Repr

/-- An option that a tool knows. It goes by its letter, or else by its first long name. -/
structure Flag where
  letter : Option Char
  names : List String
  takes : Takes
  deriving DecidableEq, Repr

/-- What an option goes by. -/
def Flag.key (flag : Flag) : String :=
  match flag.letter with
  | some letter => letter.toString
  | none => flag.names.headD ""

/-- An option written as its letter and its long names with commas between them, and a sign at the
end if it takes a value: `=` if it must, `?` if it may. -/
def Flag.ofText (text : String) : Flag :=
  let (body, takes) := match text.toList.reverse with
    | '=' :: body => (body.reverse, Takes.value)
    | '?' :: body => (body.reverse, .perhaps)
    | _ => (text.toList, .nothing)
  match Text.splitOn ',' body with
  | [letter] :: names => ⟨some letter, names.map String.ofList, takes⟩
  | _ :: names => ⟨none, names.map String.ofList, takes⟩
  | [] => ⟨none, [], takes⟩

/-- The options that a tool knows. -/
abbrev Known := List Flag

/-- Options written with blanks between them. -/
def Known.ofText (text : String) : Known :=
  (Text.splitOn ' ' text.toList).map fun flag => .ofText (String.ofList flag)

/-- Options as they were given: what they go by, with their values. -/
abbrev Given := List (String × String)

/-- The option was given. -/
def Given.has (given : Given) (key : String) : Bool :=
  given.any (·.1 == key)

/-- The value of an option, which was given last. -/
def Given.value? (given : Given) (key : String) : Option String :=
  (given.reverse.find? (·.1 == key)).map (·.2)

/-- The values of an option in order. -/
def Given.values (given : Given) (key : String) : List String :=
  given.filterMap fun (found, value) => if found = key then some value else none

/-- The last one that was given of these options. -/
def Given.last? (given : Given) (keys : List String) : Option String :=
  (given.reverse.find? fun (key, _) => keys.contains key).map (·.1)

/-- Digits, as options by which numbers may be given. -/
def digits (takes : String) : String :=
  String.join (("0123456789".toList).map fun digit => digit.toString ++ takes ++ " ")

/-- Digits that were given with what follows them, as the value of another option. -/
def Given.numberAs (given : Given) (option : String) : Given :=
  given.map fun (key, value) =>
    if key.toList.any Char.isDigit then (option, key ++ value) else (key, value)

/-- Reads letters behind a hyphen: each with its value, and whether the next argument was used for
it. -/
def letters (known : Known) (next : Option String) : List Char → Except String (Given × Bool)
  | [] => .ok ([], false)
  | letter :: rest =>
    match known.find? (·.letter == some letter) with
    | none => .error ("invalid option -- '" ++ letter.toString ++ "'")
    | some flag =>
      match flag.takes with
      | .nothing => do
        let (found, used) ← letters known next rest
        return ((flag.key, "") :: found, used)
      | .perhaps => .ok ([(flag.key, String.ofList rest)], false)
      | .value =>
        if !rest.isEmpty then .ok ([(flag.key, String.ofList rest)], false)
        else match next with
          | some value => .ok ([(flag.key, value)], true)
          | none => .error ("option requires an argument -- '" ++ letter.toString ++ "'")

/-- Reads an option by its long name. -/
def longOption (known : Known) (next : Option String) (arg : List Char) :
    Except String (Given × Bool) := do
  let name := String.ofList (arg.takeWhile (· != '='))
  let value := (arg.dropWhile (· != '=')).tail
  let given := arg.contains '='
  let all := known.flatMap fun flag => flag.names.map (·, flag)
  let fitting := all.filter fun (whole, _) => whole.startsWith name
  let (whole, flag) ← match all.find? (·.1 == name), fitting with
    | some found, _ => pure found
    | none, [] => throw ("unrecognized option '--" ++ String.ofList arg ++ "'")
    | none, first :: rest =>
      if rest.all (·.2 == first.2) then pure first
      else throw ("option '--" ++ String.ofList arg ++ "' is ambiguous; possibilities:" ++
        String.join (fitting.map fun (whole, _) => " '--" ++ whole ++ "'"))
  match flag.takes with
  | .value =>
    if given then return ([(flag.key, String.ofList value)], false)
    else match next with
      | some value => return ([(flag.key, value)], true)
      | none => throw ("option '--" ++ whole ++ "' requires an argument")
  | .perhaps => return ([(flag.key, String.ofList value)], false)
  | .nothing =>
    if given then throw ("option '--" ++ whole ++ "' doesn't allow an argument")
    else return ([(flag.key, "")], false)

/-- Splits arguments into options and others, which stand behind the options unless they are
`mixed`. The first argument is passed over if it was `used` by an option before it. Some arguments
may not be options in spite of their hyphen. -/
def optionsFrom (known : Known) (mixed : Bool) (isOther : String → Bool) :
    (used : Bool) → List String → Except String (Given × List String)
  | _, [] => .ok ([], [])
  | true, _ :: args => optionsFrom known mixed isOther false args
  | false, arg :: args =>
    match arg.toList, isOther arg with
    | ['-', '-'], _ => .ok ([], args)
    | '-' :: letter :: rest, false => do
      let (found, used) ← if letter = '-' then longOption known args.head? rest
        else letters known args.head? (letter :: rest)
      let (more, others) ← optionsFrom known mixed isOther used args
      return (found ++ more, others)
    | _, _ =>
      if mixed then do
        let (found, others) ← optionsFrom known mixed isOther false args
        return (found, arg :: others)
      else .ok ([], arg :: args)

/-- The meaning of a word that an option may have as its value; words may be cut short. -/
def choose {α : Type} [BEq α] (call : Call) (option : String) (words : List (String × α))
    (text : String) : Act α := do
  let call := { call with trouble := 1 }
  let fitting := words.filter fun (word, _) => word.startsWith text
  match words.lookup text, fitting with
  | some found, _ => return found
  | none, (_, found) :: rest =>
    if rest.all (·.2 == found) then return found
    call.dismiss ("ambiguous argument " ++ problem)
  | none, [] => call.dismiss ("invalid argument " ++ problem)
where
  /-- The value and the option, and the words that it may have. -/
  problem : String :=
    call.quoted text ++ " for " ++ call.quoted option ++ "\nValid arguments are:" ++
      String.join (words.zipIdx.map fun ((word, value), i) =>
        let isSame := (words[i - 1]?).any fun (_, other) => other == value
        (if i != 0 && isSame then ", " else "\n  - ") ++ call.quoted word)

/-- No argument looks like an option without being one. -/
def noneOther (_ : String) : Bool := false

/-- A tool with options, which is told those that were given and its other arguments. -/
def withOptions (known : String) (body : Given → List String → Tool) : Tool := fun call =>
  match optionsFrom (.ofText known) true noneOther false call.args with
  | .ok (given, others) => body given others call
  | .error problem => call.misused problem

/-- A tool whose options stand before its other arguments, some of which may look like options. -/
def withOptionsFirst (known : String) (isOther : String → Bool)
    (body : Given → List String → Tool) : Tool := fun call =>
  match optionsFrom (.ofText known) false isOther false call.args with
  | .ok (given, others) => body given others call
  | .error problem => call.misused problem

end StagedBuild.Script.Tools
