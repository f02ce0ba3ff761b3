import StagedBuild.Script.Numeral
import StagedBuild.Script.Shell

/-!
# Arguments of commands

What the commands of the shell share: they read options and numbers from their arguments, and they
print. The result of a command is its status; a command that is not used as it should be fails.
-/

namespace StagedBuild.Script.Builtin

/-- A command of the shell. -/
abbrev Body := (args : List String) → Run Nat

/-- Prints text. -/
def say (text : String) : Run Nat := do
  if ← Run.print text then return 0
  else
    let name := ((← get).calling).getD ""
    Run.report (name ++ ": I/O error")
    return 1

/-- Splits options off arguments: the letters that were given, each with its argument if it takes
one, and what follows. -/
def options (known withArgument : List Char) :
    (args : List String) → Run (List (Char × String) × List String)
  | [] => return ([], [])
  | arg :: args =>
    match arg.toList with
    | '-' :: '-' :: [] => return ([], args)
    | '-' :: letter :: letters => do
      let rec take : List Char → Run (List (Char × String) × Bool)
        | [] => return ([], false)
        | letter :: letters => do
          if withArgument.contains letter then
            if letters.isEmpty then
              match args with
              | value :: _ => return ([(letter, value)], true)
              | [] => Run.fail ("No arg for -" ++ letter.toString ++ " option")
            else return ([(letter, String.ofList letters)], false)
          else if known.contains letter then
            let (found, usesNext) ← take letters
            return ((letter, "") :: found, usesNext)
          else Run.fail ("Illegal option -" ++ letter.toString)
      let (found, usesNext) ← take (letter :: letters)
      if usesNext then return (found, args.tail)
      else
        let (more, rest) ← options known withArgument args
        return (found ++ more, rest)
    | _ => return ([], arg :: args)

/-- A number that is not negative. -/
def number (text : String) : Run Nat := do
  match Numeral.integer? true false text with
  | some value =>
    if 0 ≤ value && value ≤ 2147483647 then return value.toNat
    else Run.fail ("Illegal number: " ++ text)
  | none => Run.fail ("Illegal number: " ++ text)

end StagedBuild.Script.Builtin
