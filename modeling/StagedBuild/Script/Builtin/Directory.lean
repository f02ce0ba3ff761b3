import StagedBuild.Script.Builtin.Arguments

/-!
# Going to directories

The path of the directory is kept as it was reached, with links in it and without dots. A path that
does not start at the root or with dots is looked for in the directories that a variable lists.
-/

namespace StagedBuild.Script.Builtin

open Process

/-- The path of a directory that is reached from another: dots lead up in the text of the path. Two
slashes at the start are kept. Nothing if the other is not known. -/
def reached? (before path : String) : Option String :=
  let parts := FilePath.segments path
  let below (root : String) (names : List String) : Option String :=
    let names := parts.foldl (fun names part =>
      if part = "." then names else if part = ".." then names.tail else part :: names) names
    some (root ++ "/".intercalate names.reverse)
  let rootOf (path : String) : String :=
    if path.startsWith "//" && !path.startsWith "///" then "//" else "/"
  if path.startsWith "/" then below (rootOf path) []
  else if before.isEmpty then none
  else below (rootOf before) (FilePath.segments before).reverse

/-- Where the directory really is; nothing if it has been removed. -/
def physicalPath : Act String :=
  Act.viewTree fun tree dir =>
    match tree.placeOf? dir with
    | some names => "/" ++ "/".intercalate names
    | none => ""

/-- The paths that a directory may be looked for by, and whether it is shown then. -/
def tries (shell : Shell) (path : String) : List (String × Bool) :=
  let first := String.ofList (path.toList.takeWhile (· != '/'))
  match shell.valueOf? "CDPATH" with
  | some places =>
    if path.startsWith "/" || first = "." || first = ".." then []
    else (Text.splitOn ':' places.toList).map fun place =>
      if place.isEmpty then (path, false) else (String.ofList place ++ "/" ++ path, true)
  | none => []

/-- Goes to a directory; its path if it is known. -/
def goTo (physical : Bool) (before path : String) : Act (Except OsError (Option String)) := do
  let new := if physical then none else reached? before path
  match ← Act.find (new.getD path) with
  | .error e => return .error e
  | .ok id =>
    if !(← Act.viewTree fun tree _ => tree.isDirectory id) then return .error .notDirectory
    Act.change (·.setActor fun process => { process with dir := id })
    return .ok new

/-- Sets the path of the directory, and the variables that hold it. -/
def setPath (path : String) : Run Unit := do
  Run.assign "OLDPWD" (← get).path
  modify fun shell => { shell with
    path, remembered := shell.remembered.map fun (name, found, _) => (name, found, true) }
  Run.assign "PWD" path
  for name in ["OLDPWD", "PWD"] do
    Run.change name fun found => { found with exported := true }

/-- Goes to another directory. Without arguments that is home; `-` is where we were before, and is
shown. -/
def cd : Body := fun args => do
  let (found, args) ← options ['L', 'P'] [] args
  let physical := found.getLast?.map (·.1) == some 'P'
  let shell ← get
  let (wanted, shows) := match args with
    | [] => ((shell.valueOf? "HOME").getD "", false)
    | "-" :: _ => ((shell.valueOf? "OLDPWD").getD "", true)
    | path :: _ => (path, false)
  let path := if wanted.isEmpty then "." else wanted
  let attempts := tries shell path
  let (path, showsToo) ← (Act.viewTree fun tree dir =>
    (attempts.find? fun (path, _) => tree.leadsToDirectory dir path).getD (path, false) : Act _)
  match ← (goTo physical shell.path path : Act _) with
  | .error _ => Run.fail ("can't cd to " ++ wanted)
  | .ok new =>
    setPath (← (match new with
      | some new => pure new
      | none => physicalPath : Act String))
    if shows || showsToo then say ((← get).path ++ "\n") else return 0

/-- Prints the directory we are in. -/
def pwd : Body := fun args => do
  let (found, _) ← options ['L', 'P'] [] args
  let path ← if found.getLast?.map (·.1) == some 'P' then (physicalPath : Act String)
    else pure (← get).path
  say (path ++ "\n")

end StagedBuild.Script.Builtin
