import StagedBuild.Script.Tools.Removing

/-!
# Tools for links

Giving files more names, making links that lead on to other paths, and finding out where they lead.
-/

namespace StagedBuild.Script.Tools

open Process

/-! ### Where paths lead -/

/-- What must be there for a path to lead somewhere. -/
inductive Required where
  | all
  /-- All but the last name. -/
  | allButLast
  | nothing
  deriving DecidableEq, Repr

/-- Follows names: where they lead, as names from the root. The names that were followed are given
in reverse order, with the directory they lead to if there is one. -/
def followNames (tree : FileTree) (required : Required) (follows : Bool) :
    (links : Nat) → (dir : Option NodeId) → (done : List String) → (names : List String) →
    Except OsError (List String)
  | _, _, done, [] => .ok done.reverse
  | links, dir, done, name :: rest =>
    let isHere := name = "."
    let isDirectory := dir.any tree.isDirectory
    if required ≠ .nothing ∧ !isDirectory then
      .error (if dir.isSome then .notDirectory else .notFound)
    else if isHere then followNames tree required follows links dir done rest
    else if name = ".." then
      followNames tree required follows links (dir.map tree.parent) done.tail rest
    else match dir.bind fun dir => (tree.entries dir).lookup name with
      | none =>
        let isLast := rest.all (· == ".")
        if required = .nothing ∨ (required = .allButLast ∧ isLast) then
          if isLast then .ok (name :: done).reverse
          else followNames tree required follows links none (name :: done) rest
        else .error .notFound
      | some id =>
        match tree.link? id, follows with
        | some path, true =>
          match links with
          | 0 => .error .tooManyLinks
          | links + 1 =>
            let atRoot := FilePath.startsAtRoot path
            followNames tree required follows links (if atRoot then some FileTree.root else dir)
              (if atRoot then [] else done) (FilePath.segments path ++ rest)
        | _, _ => followNames tree required follows links (some id) (name :: done) rest
termination_by links _ _ names => (links, names.length)

/-- The path from the root that a path leads to. -/
def canonical (required : Required) (follows : Bool) (path : String) :
    Act (Except OsError String) :=
  Act.viewTree fun tree dir => do
    if path.isEmpty then throw .notFound
    let atRoot := FilePath.startsAtRoot path
    let start := if atRoot then [] else (tree.placeOf? dir).getD []
    let names ← followNames tree required follows FileTree.maxLinks
      (some (if atRoot then FileTree.root else dir)) start.reverse
      (FilePath.segments path)
    let found := "/" ++ "/".intercalate names
    if required ≠ .nothing && FilePath.endsWithSlash path then
      if let .ok id := tree.find FileTree.root found then
        if !tree.isDirectory id then throw .notDirectory
    return found

/-- A path from one directory to another place; both are paths from the root. -/
def relativePath (dir target : String) : String :=
  let rec strip : List String → List String → List String × List String
    | a :: as, b :: bs => if a = b then strip as bs else (a :: as, b :: bs)
    | as, bs => (as, bs)
  let (up, down) := strip (FilePath.segments dir) (FilePath.segments target)
  let names := up.map (fun _ => "..") ++ down
  if names.isEmpty then "." else "/".intercalate names

/-- Shows where links lead, or the paths that paths lead to. -/
def readlink : Tool := withOptions ("f,canonicalize e,canonicalize-existing " ++
    "m,canonicalize-missing n,no-newline q,quiet s,silent v,verbose z,zero")
    fun given paths call => do
  if paths.isEmpty then return ← call.misused "missing operand"
  let stop := if given.has "n" && paths.length = 1 then ""
    else if given.has "z" then "\x00" else "\n"
  let ignored := given.has "n" && 1 < paths.length
  if ignored then call.complain "ignoring --no-newline with multiple arguments"
  let isVerbose := given.last? ["q", "s", "v"] == some "v"
  let required := (given.last? ["f", "e", "m"]).map fun key =>
    if key = "f" then Required.allButLast else if key = "e" then .all else .nothing
  forEach (fun path => do
    let found ← match required with
      | some required => canonical required true path
      | none =>
        match ← lookAt path with
        | .ok (_, .link target) => pure (.ok target)
        | .ok _ => pure (.error .invalidArgument)
        | .error e => pure (.error e)
    match found with
    | .ok found =>
      call.print (found ++ stop)
      return 0
    | .error e =>
      if isVerbose then call.complain (call.plainPath path ++ ": " ++ e.description)
      return 1) paths

/-- Shows the paths that paths lead to. -/
def realpath : Tool := withOptions ("e,canonicalize-existing m,canonicalize-missing L,logical " ++
    "P,physical q,quiet s,strip,no-symlinks z,zero ,relative-to= ,relative-base=")
    fun given paths call => do
  if paths.isEmpty then return ← call.misused "missing operand"
  let required := match given.last? ["e", "m"] with
    | some "e" => Required.all
    | some _ => .nothing
    | none => .allButLast
  let follows := given.last? ["s", "P", "L"] != some "s"
  let resolve (path : String) : Act (Except OsError String) := canonical required follows path
  let directory (option : String) : Act (Option String) := do
    match given.value? option with
    | none => return none
    | some path =>
      match ← resolve path with
      | .ok found => return some found
      | .error e => call.giveUp (call.plainPath path ++ ": " ++ e.description)
  let base ← directory "relative-base"
  let dir ← directory "relative-to"
  let isBelow (base path : String) : Bool :=
    (FilePath.segments base).isPrefixOf (FilePath.segments path)
  let show_ (found : String) : String :=
    match base, dir with
    | none, none => found
    | none, some dir => relativePath dir found
    | some base, dir =>
      let dir := dir.getD base
      if isBelow base dir && isBelow base found then relativePath dir found else found
  forEach (fun path => do
    match ← resolve path with
    | .ok found =>
      call.print (show_ found ++ (if given.has "z" then "\x00" else "\n"))
      return 0
    | .error e =>
      if given.has "q" then return 1
      call.refuse (call.plainPath path ++ ": " ++ e.description)) paths

/-! ### Making links -/

/-- The last name of a path. -/
def lastOf (path : String) : String :=
  (FilePath.segments path).getLastD (if path.isEmpty then "" else "/")

/-- Where files go: to one path, or into a directory. -/
inductive Destination where
  | path (path : String)
  | into (dir : String)
  deriving Repr

/-- The sources and the destination that arguments name. A last argument that is a directory is one
to put files into, unless that is ruled out. -/
def destinationOf (call : Call) (given : Given) (isDirectory : String → Act Bool)
    (paths : List String) : Act (List String × Destination) := do
  if given.has "T" && given.has "t" then
    call.giveUp "cannot combine --target-directory (-t) and --no-target-directory (-T)"
  match given.value? "t", paths.reverse with
  | _, [] => call.dismiss "missing file operand"
  | some dir, _ => return (paths, .into dir)
  | none, [only] =>
    call.dismiss ("missing destination file operand after " ++ call.path only)
  | none, last :: before =>
    let sources := before.reverse
    if given.has "T" then
      if let [_, _, extra] := paths then call.dismiss ("extra operand " ++ call.path extra)
      return (sources, .path last)
    else if ← isDirectory last then return (sources, .into last)
    else if sources.length = 1 then return (sources, .path last)
    else
      let e ← match ← Act.find last with
        | .ok _ => pure OsError.notDirectory
        | .error e => pure e
      call.giveUp ("target " ++ call.path last ++ ": " ++ e.description)

/-- The path leads to a directory. -/
def leadsToDirectory (path : String) : Act Bool :=
  Act.viewTree fun tree dir => tree.leadsToDirectory dir path

/-- Makes one link. -/
def makeLink (call : Call) (given : Given) (source target : String) : Act Nat := do
  let isSoft := given.has "s"
  let origin ← Act.find source (given.has "L")
  if !isSoft then
    match origin with
    | .error e => return ← call.refuse ("failed to access " ++ call.path source ++ ": " ++
        e.description)
    | .ok id =>
      if ← Act.viewTree fun tree _ => tree.isDirectory id then
        return ← call.refuse (call.plainPath source ++ ": hard link not allowed for directory")
  let there ← Act.find target false
  if let .ok id := there then
    let isDir ← Act.viewTree fun tree _ => tree.isDirectory id
    if given.has "f" || given.has "i" then
      if isDir then
        return ← call.refuse (call.plainPath target ++ ": cannot overwrite directory")
      let isSame ← Act.viewTree fun tree dir =>
        (tree.find dir source).toOption == some id
      let isSameName ← Act.viewTree fun tree dir =>
        (tree.resolve dir source false).toOption.map (fun spot => (spot.dir, spot.name)) ==
          (tree.resolve dir target false).toOption.map (fun spot => (spot.dir, spot.name))
      if isSame && (!isSoft || isSameName) then
        if !isSoft && !isSameName then return 0
        return ← call.refuse (call.path source ++ " and " ++ call.path target ++
          " are the same file")
      if given.last? ["f", "i"] == some "i" then
        if !(← ask call ("replace " ++ call.path target)) then return 0
      let _ ← Act.changeTree fun tree dir => tree.unlink dir target
  let leadsTo ← if isSoft && given.has "r" then do
      match ← canonical .nothing true (withoutLastSegment target),
        ← canonical .nothing true source with
      | .ok dir, .ok found => pure (relativePath dir found)
      | _, _ => pure source
    else pure source
  let made ← Act.changeTree fun tree dir => do
    if isSoft then tree.addLink dir leadsTo target
    else tree.addName dir (← tree.find dir source (given.has "L")) target
  match made with
  | .ok () =>
    if given.has "v" then
      call.print (call.path target ++ (if isSoft then " -> " else " => ") ++ call.path leadsTo ++
        "\n")
    return 0
  | .error e =>
    let what := if isSoft then
        "symbolic link " ++ call.path target ++
          (if e = .nameTooLong || source.isEmpty then " -> " ++ call.path source else "")
      else if e = .alreadyExists then "hard link " ++ call.path target
      else "hard link " ++ call.path target ++ " => " ++ call.path source
    call.refuse ("failed to create " ++ what ++ ": " ++ e.description)
where
  /-- The path of the directory that a path is in. -/
  withoutLastSegment (path : String) : String :=
    let chars := (withoutEndSlashes path).toList.reverse.dropWhile (· != '/')
    if chars.isEmpty then "." else String.ofList chars.reverse

/-- Makes links. -/
def ln : Tool := withOptions ("s,symbolic f,force n,no-dereference v,verbose i,interactive " ++
    "r,relative L,logical P,physical T,no-target-directory t,target-directory= d F,directory b " ++
    "S,suffix= ,backup?") fun given paths call => do
  if given.has "r" && !given.has "s" then
    return ← call.refuse "cannot do --relative without --symbolic"
  let isDirectory (path : String) : Act Bool := do
    if given.has "n" then
      if let .ok (_, .link _) ← lookAt path then return false
    leadsToDirectory path
  if let some dir := given.value? "t" then
    if !(← isDirectory dir) then
      let e ← match ← Act.find dir with
        | .ok _ => pure OsError.notDirectory
        | .error e => pure e
      return ← call.refuse ("target directory " ++ call.path dir ++ ": " ++ e.description)
  let (sources, destination) ← match paths, given.has "t" || given.has "T" with
    | [only], false => pure ([only], Destination.into ".")
    | _, _ => destinationOf call given isDirectory paths
  match destination with
  | .path target => forEach (fun source => makeLink call given source target) sources
  | .into dir =>
    forEach (fun source => makeLink call given source (FilePath.join dir (lastOf source))) sources

/-- Gives a file one more name. -/
def link : Tool := withOptions "" fun _ paths call => do
  match paths with
  | [] => call.misused "missing operand"
  | [only] => call.misused ("missing operand after " ++ call.quoted only)
  | [source, target] =>
    match ← Act.changeTree fun tree dir => do
      tree.addName dir (← tree.find dir source false) target with
    | .ok () => return 0
    | .error e =>
      call.refuse ("cannot create link " ++ call.path target ++ " to " ++ call.path source ++
        ": " ++ e.description)
  | _ :: _ :: extra :: _ => call.misused ("extra operand " ++ call.quoted extra)

end StagedBuild.Script.Tools
