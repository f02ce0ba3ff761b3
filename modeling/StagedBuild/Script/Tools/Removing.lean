import StagedBuild.Script.Tools.Input

/-!
# Tools that remove files

Removing files, directories, and all that is below them. Whoever is to be asked before something is
removed answers on the standard input.
-/

namespace StagedBuild.Script.Tools

open Process

/-- What a path denotes, without following a link at its end: the node, and what it holds. -/
def lookAt (path : String) (follow : Bool := false) :
    Act (Except OsError (NodeId × Content)) := do
  match ← Act.find path follow with
  | .ok id => return .ok (id, ← Act.viewTree fun tree _ => tree.content id)
  | .error e => return .error e

/-- What is found is a directory. -/
def isDirectory : Content → Bool
  | .directory .. => true
  | _ => false

/-- The names in a directory, in order. -/
def namesIn (id : NodeId) : Act (List String) :=
  Act.viewTree fun tree _ => (tree.children id).mergeSort fun a b => a ≤ b

/-- Something is not there; that is no failure for those who want it gone. -/
def isMissing (e : OsError) : Bool :=
  e = .notFound || e = .notDirectory || e = .invalidArgument

/-- What kind of file it is, in words. -/
def kindName : Content → String
  | .directory .. => "directory"
  | .file bytes => if bytes.isEmpty then "regular empty file" else "regular file"
  | .program _ => "regular file"
  | .link _ => "symbolic link"
  | .device _ => "character special file"
  | .queue _ => "fifo"

/-- Asks a question; the answer is read from the standard input. -/
def ask (call : Call) (question : String) : Act Bool := do
  let _ ← Act.write 2 (call.name ++ ": " ++ question ++ "? ")
  match ← Act.readLine 0 with
  | .ok answer => return answer.startsWith "y" || answer.startsWith "Y"
  | .error _ => return false

/-- Removes what a path denotes, with all that is below it if that is asked for. The status, and
whether it is gone. Directories may be nested `depth` deep. -/
def removePath (call : Call) (given : Given) (asks : Bool) : (depth : Nat) → (path : String) →
    Act (Nat × Bool)
  | 0, _ => Act.exhaust
  | depth + 1, path => do
    let cannot (e : OsError) : Act (Nat × Bool) := do
      return (← call.refuse ("cannot remove " ++ call.path path ++ ": " ++ e.description), false)
    let deep := given.has "r" || given.has "R"
    let tell (what : String) : Act Unit := do
      if given.has "v" then call.print ("removed " ++ what ++ call.path path ++ "\n")
    match ← lookAt path with
    | .error e =>
      if given.has "f" && isMissing e then return (0, true) else cannot e
    | .ok (id, content) =>
      if !isDirectory content then
        if asks then
          let isAgreed ← ask call ("remove " ++ kindName content ++ " " ++ call.path path)
          if !isAgreed then return (0, false)
        match ← Act.changeTree fun tree dir => tree.unlink dir path with
        | .ok () =>
          tell ""
          return (0, true)
        | .error e => cannot e
      else
        let names ← namesIn id
        if !deep && !given.has "d" then return ← cannot .isDirectory
        if !deep && !names.isEmpty then return ← cannot .notEmpty
        let mut status := 0
        let mut isEmpty := true
        if !names.isEmpty then
          if asks then
            let isAgreed ← ask call ("descend into directory " ++ call.path path)
            if !isAgreed then return (0, false)
          for name in names do
            let (found, isGone) ← removePath call given asks depth (FilePath.join path name)
            status := max status found
            isEmpty := isEmpty && isGone
          if !isEmpty then return (status, false)
        if asks then
          let isAgreed ← ask call ("remove directory " ++ call.path path)
          if !isAgreed then return (status, false)
        match ← Act.changeTree fun tree dir => tree.removeDirectory dir path with
        | .ok () =>
          tell "directory "
          return (status, true)
        | .error e => cannot e

/-- How deep directories may be nested. -/
def maxNesting : Nat := 3000

/-- Removes files, and directories if that is asked for. -/
def rm : Tool := withOptions ("r,recursive R f,force i I ,interactive? d,dir v,verbose " ++
    ",preserve-root? ,no-preserve-root ,one-file-system") fun given paths call => do
  let words ← (given.values "interactive").mapM fun word =>
    if word.isEmpty then return "i" else choose call "--interactive"
      [("never", "f"), ("no", "f"), ("none", "f"), ("once", "I"), ("always", "i"), ("yes", "i")]
      word
  let last := (given.last? ["f", "i", "I", "interactive"]).map fun key =>
    if key = "interactive" then words.getLastD "" else key
  let given : Given := given.filter fun (key, _) => key != "f" || last == some "f"
  if paths.isEmpty then
    if last = some "f" then return 0
    return ← call.misused "missing operand"
  let deep := given.has "r" || given.has "R"
  if last = some "I" && (deep || 3 < paths.length) then
    let count := toString paths.length ++ (if paths.length = 1 then " argument" else " arguments")
    let isAgreed ← ask call ("remove " ++ count ++ (if deep then " recursively" else ""))
    if !isAgreed then return 0
  forEach (fun path => do
    let name := (FilePath.segments path).getLast?
    let isThere ← Act.viewTree fun tree dir => tree.leadsToDirectory dir path
    if deep && isThere && (name = some "." || name = some "..") then
      return ← call.refuse ("refusing to remove '.' or '..' directory: skipping " ++
        call.path path)
    if deep && name.isNone && !path.isEmpty && !given.has "no-preserve-root" then
      return ← call.refuse ("it is dangerous to operate recursively on '/'\n" ++ call.name ++
        ": use --no-preserve-root to override this failsafe")
    return (← removePath call given (last == some "i") maxNesting path).1) paths

/-- A path without the slashes at its end. -/
def withoutEndSlashes (path : String) : String :=
  String.ofList (path.toList.reverse.dropWhile (· == '/')).reverse

/-- Removes a directory, and then those above it as far as the path names them. -/
def removeAlong (call : Call) (given : Given) : (count : Nat) → (isFirst : Bool) →
    (path : String) → Act Nat
  | 0, _, _ => return 0
  | count + 1, isFirst, path => do
    if given.has "v" then
      call.print (call.name ++ ": removing directory, " ++ call.path path ++ "\n")
    match ← Act.changeTree fun tree dir => tree.removeDirectory dir path with
    | .ok () =>
      let above := ((withoutEndSlashes path).toList.reverse.dropWhile (· != '/')).dropWhile
        (· == '/')
      if given.has "p" && !above.isEmpty then
        removeAlong call given count false (String.ofList above.reverse)
      else return 0
    | .error e =>
      if given.has "ignore-fail-on-non-empty" && e = .notEmpty then return 0
      let isLink ← Act.viewTree fun tree dir =>
        (tree.find dir (withoutEndSlashes path) false).toOption.any fun id =>
          (tree.link? id).isSome
      let isThere ← Act.viewTree fun tree dir => tree.leadsToDirectory dir path
      if e = .notDirectory && FilePath.endsWithSlash path && isLink && isThere then
        return ← call.refuse ("failed to remove " ++ call.path path ++
          ": Symbolic link not followed")
      call.refuse ("failed to remove " ++ (if isFirst then "" else "directory ") ++
        call.path path ++ ": " ++ e.description)

/-- Removes empty directories. -/
def rmdir : Tool := withOptions "p,parents v,verbose ,ignore-fail-on-non-empty"
    fun given paths call => do
  if paths.isEmpty then return ← call.misused "missing operand"
  forEach (fun path => removeAlong call given (path.length + 1) true path) paths

/-- Removes one name of a file. -/
def unlink : Tool := withOptions "" fun _ paths call => do
  match paths with
  | [] => call.misused "missing operand"
  | [path] =>
    match ← Act.changeTree fun tree dir => tree.unlink dir path with
    | .ok () => return 0
    | .error e => call.refuse ("cannot unlink " ++ call.path path ++ ": " ++ e.description)
  | _ :: extra :: _ => call.misused ("extra operand " ++ call.quoted extra)

end StagedBuild.Script.Tools
