import StagedBuild.Script.Builtin.Arguments

/-!
# Properties of variables

Variables can be given to programs, kept from changes, and belong to a function that is running.
-/

namespace StagedBuild.Script.Builtin

/-- Lists variables in order, as commands that set them. -/
def list (before : String) (which : Variable → Bool) : Run Nat := do
  let found := (← get).bindings.filter fun (_, found) => which found
  let lines := (found.mergeSort fun a b => a.1 ≤ b.1).map fun (name, found) =>
    before ++ name ++ found.value.elim "" (fun value => "=" ++ Shell.quote value) ++ "\n"
  say (String.join lines)

/-- The name and the value of an argument that assigns. -/
def assignment (arg : String) : String × Option String :=
  let name := arg.toList.takeWhile (· != '=')
  match arg.toList.dropWhile (· != '=') with
  | _ :: value => (String.ofList name, some (String.ofList value))
  | [] => (arg, none)

/-- Gives variables a property, and possibly a value, or lists those that have it. -/
def mark (which : Variable → Bool) (change : Variable → Variable) : Body := fun args => do
  let command := ((← get).calling).getD ""
  let (found, args) ← options ['p'] [] args
  if !found.isEmpty || args.isEmpty then list (command ++ " ") which
  else
    for arg in args do
      let (name, value) := assignment arg
      Run.checkName name
      match value with
      | some value => Run.assign name value
      | none => pure ()
      Run.change name change
    return 0

/-- Keeps variables for the function that is running, possibly with new values. -/
def «local» : Body := fun args => do
  if (← get).calls = 0 then Run.fail "not in a function"
  for arg in args do
    let (name, value) := assignment arg
    if name = "-" then
      Run.saveOptions
      continue
    if value.isNone then Run.checkName name
    Run.save name
    match value with
    | some value => Run.assign name value
    | none => pure ()
  return 0

/-- Removes variables, or functions. -/
def unset : Body := fun args => do
  let (found, args) ← options ['v', 'f'] [] args
  for name in args do
    if found.getLast?.map (·.1) == some 'f' then
      modify fun shell => { shell with functions := shell.functions.filter (·.1 != name) }
    else
      let (name, _) := assignment name
      Run.checkName name
      Run.checkWritable name
      modify fun shell => shell.putVariable name none
  return 0

end StagedBuild.Script.Builtin
