import StagedBuild.Script.Builtin.Arguments

/-!
# Aliases

Words that stand for other text at the start of a command. They count from the line on that follows
the one where they are made.
-/

namespace StagedBuild.Script.Builtin

/-- An alias as it is listed. -/
def aliasLine (name value : String) : String :=
  name ++ "=" ++ Shell.quote value ++ "\n"

/-- Says that there is no such alias. -/
def noAlias (command name : String) : Run Nat := do
  Run.writeError (command ++ ": " ++ name ++ " not found\n")
  return 1

/-- Makes aliases from arguments, or lists them. -/
def makeAliases : List String → Run Nat
  | [] => return 0
  | arg :: args => do
    let name := String.ofList (arg.toList.takeWhile (· != '='))
    let status ←
      if name.isEmpty || !arg.contains '=' then
        match (← get).aliases.lookup arg with
        | some value => say (aliasLine arg value)
        | none => noAlias "alias" arg
      else
        let value := String.ofList (arg.toList.drop (name.length + 1))
        modify fun shell => { shell with
          aliases := shell.aliases.filter (·.1 != name) ++ [(name, value)] }
        pure 0
    return max status (← makeAliases args)

/-- Makes aliases, or lists all of them. -/
def «alias» : Body := fun args => do
  if args.isEmpty then
    let listed := (← get).aliases.mergeSort fun a b => Shell.group a.1 ≤ Shell.group b.1
    say (String.join (listed.map fun (name, value) => aliasLine name value))
  else makeAliases args

/-- Removes the aliases of these names. -/
def removeAliases : List String → Run Nat
  | [] => return 0
  | name :: names => do
    let status ←
      if (← get).aliases.any (·.1 == name) then
        modify fun shell => { shell with aliases := shell.aliases.filter (·.1 != name) }
        pure 0
      else noAlias "unalias" name
    return max status (← removeAliases names)

/-- Removes aliases, or all of them. -/
def unalias : Body := fun args => do
  let (found, names) ← options ['a'] [] args
  if found.isEmpty then removeAliases names
  else
    modify fun shell => { shell with aliases := [] }
    return 0

end StagedBuild.Script.Builtin
