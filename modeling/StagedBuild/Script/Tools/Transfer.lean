import StagedBuild.Script.Tools.Linking
import StagedBuild.Script.Tools.Mode

/-!
# Copying and moving

Copying and moving files, and directories with all that is below them, to a new path or into a
directory. A file that is written over keeps its rights; a new one gets those of its source.
-/

namespace StagedBuild.Script.Tools

open Process

/-- What copying or moving files goes by. -/
structure Transfer where
  call : Call
  given : Given
  moves : Bool

/-- The outcome of copying or moving a file: the status, and the files that were made. -/
abbrev Outcome := Nat × List NodeId

namespace Transfer

/-- Whether directories are copied. -/
def isDeep (transfer : Transfer) : Bool :=
  ["r", "R", "a"].any transfer.given.has

/-- Whether rights and times are kept. -/
def keepsAll (transfer : Transfer) : Bool :=
  ["p", "a", "preserve"].any transfer.given.has

/-- Whether a link is followed, which may be named by an argument. -/
def follows (transfer : Transfer) (isTop : Bool) : Bool :=
  match transfer.given.last? ["L", "H", "P", "d", "a"] with
  | some "L" => true
  | some "H" => isTop
  | some _ => false
  | none => !transfer.isDeep

/-- Two paths, in quotes. -/
def pair (transfer : Transfer) (source between target : String) : String :=
  transfer.call.path source ++ between ++ transfer.call.path target

/-- Complains; what was made before stays. -/
def fail (transfer : Transfer) (made : List NodeId) (problem : String) : Act Outcome := do
  return (← transfer.call.refuse problem, made)

/-- Tells what was done. -/
def tell (transfer : Transfer) (source target : String) (backup : Option String) : Act Unit := do
  if transfer.given.has "v" then
    transfer.call.print ((if transfer.moves then "renamed " else "") ++
      transfer.pair source " -> " target ++
      backup.elim "" (fun path => " (backup: " ++ transfer.call.path path ++ ")") ++ "\n")

/-- Gives a file the rights and the time of its source. -/
def keepAll (source target : NodeId) : Act Unit :=
  Act.change fun world =>
    let node := world.tree.node source
    { world with tree := world.tree.update target fun found => { found with
        rights := node.rights, changed := node.changed } }

/-- The path under which a file is kept that is to be replaced, if that is asked for. -/
def backup? (transfer : Transfer) (target : String) : Option String :=
  let given := transfer.given
  if given.has "b" || given.has "backup" || given.has "S" then
    some (target ++ (given.value? "S").getD "~")
  else none

/-- Whether a file that is there may be replaced. -/
def mayReplace (transfer : Transfer) (source found : NodeId) (target : String) : Act Bool := do
  let given := transfer.given
  if given.last? ["n", "f", "i"] == some "n" then return false
  if given.has "u" then
    let isNewer ← Act.viewTree fun tree _ =>
      decide ((tree.node found).changed < (tree.node source).changed)
    if !isNewer then return false
  if given.last? ["n", "f", "i"] == some "i" then
    return ← ask transfer.call ("overwrite " ++ transfer.call.path target)
  return true

/-- Copies the content of a file into another, which may be new. -/
def copyContent (transfer : Transfer) (made : List NodeId) (id : NodeId) (content : Content)
    (source target : String) (backup : Option String) : Act Outcome := do
  let mask ← Act.view (·.actor.mask)
  let there ← Act.find target
  let rights ← Act.viewTree fun tree _ => (tree.node id).rights
  let newRights := Mode.without (rights &&& 511) mask
  let problem ← match content with
    | .program name => do
      match ← Act.changeTree fun tree dir => do
        let (place, last) ← tree.vacancy (← tree.resolve dir target)
        return (tree.grow place last (.program name) newRights).2 with
      | .ok () => pure none
      | .error e => pure (some e)
    | _ =>
      match ← Act.readFile source with
      | .error e => pure (some e)
      | .ok text =>
        let opened ← Act.openPath .writing target
        let opened ← match opened with
          | .error e => do
            if transfer.given.has "f" && there.toBool then
              let _ ← Act.changeTree fun tree dir => tree.unlink dir target
              Act.openPath .writing target
            else pure (.error e)
          | found => pure found
        match opened with
        | .error e =>
          pure (some (if e = .isDirectory && !there.toBool then .notDirectory else e))
        | .ok channel =>
          let hidden ← Act.hide channel
          let _ ← Act.write hidden text
          Act.connect hidden none
          if let (.error _, .ok new) := (there, ← Act.find target) then
            Act.change fun world => { world with
              tree := world.tree.update new fun node => { node with rights := newRights } }
          pure none
  match problem with
  | some e =>
    transfer.fail made ("cannot create regular file " ++ transfer.call.path target ++ ": " ++
      e.description)
  | none =>
    transfer.tell source target backup
    match ← Act.find target with
    | .ok new =>
      if transfer.keepsAll then keepAll id new
      return (0, new :: made)
    | .error _ => return (0, made)

/-- Makes a copy that is a link: another name of a file, or one that leads on to it. -/
def copyAsLink (transfer : Transfer) (made : List NodeId) (leadsTo : Option String)
    (id : NodeId) (source target : String) : Act Outcome := do
  let result ← Act.changeTree fun tree dir => match leadsTo with
    | some path => tree.addLink dir path target
    | none => tree.addName dir id target
  match result with
  | .ok () =>
    transfer.tell source target none
    return (0, made)
  | .error e =>
    transfer.fail made (if leadsTo.isSome then
        "cannot create symbolic link " ++ transfer.call.path target ++ ": " ++ e.description
      else "cannot create hard link " ++ transfer.pair target " to " source ++ ": " ++
        e.description)

/-- Copies a directory, which may be there already, and what is in it. -/
def copyDirectory (transfer : Transfer) (top : String × String)
    (inner : (made : List NodeId) → (source target : String) → Act Outcome)
    (made : List NodeId) (id : NodeId) (source target : String) (isThere : Bool) :
    Act Outcome := do
  if !isThere then
    let mask ← Act.view (·.actor.mask)
    let rights ← Act.viewTree fun tree _ => (tree.node id).rights
    match ← Act.changeTree fun tree dir =>
      tree.makeDirectory dir target (Mode.without (rights &&& 1023) mask) with
    | .ok () => transfer.tell source target none
    | .error e =>
      return ← transfer.fail made ("cannot create directory " ++ transfer.call.path target ++
        ": " ++ e.description)
  let .ok new ← Act.find target | return (1, made)
  let result ← (← namesIn id).foldlM (fun (status, made) name => do
    let path := FilePath.join source name
    let isMade := ((← Act.find path false).toOption).any fun found =>
      !isThere && found == new || made.contains found
    if isMade && (← leadsToDirectory path) then
      let found ← transfer.call.refuse ("cannot copy a directory, " ++
        transfer.pair top.1 ", into itself, " top.2)
      return (max status found, made)
    let (found, made) ← inner made path (FilePath.join target name)
    return (max status found, made)) (0, if isThere then made else new :: made)
  if transfer.keepsAll then keepAll id new
  return result

/-- Copies one path to another, with what is below it. Directories may be nested `depth` deep. -/
def copy (transfer : Transfer) (top : String × String) : (depth : Nat) → (isTop : Bool) → (made : List NodeId) →
    (source target : String) → Act Outcome
  | 0, _, _, _, _ => Act.exhaust
  | depth + 1, isTop, made, source, target => do
    let call := transfer.call
    let given := transfer.given
    match ← lookAt source (transfer.follows isTop) with
    | .error e =>
      transfer.fail made ("cannot stat " ++ call.path source ++ ": " ++ e.description)
    | .ok (id, content) =>
      let isDir := isDirectory content
      if isDir && !transfer.isDeep then
        return ← transfer.fail made ("-r not specified; omitting directory " ++ call.path source)
      let isPlain := match content with
        | .file _ | .program _ => true
        | .device _ | .queue _ => !transfer.isDeep
        | _ => false
      let asLink := given.has "s" || given.has "l"
      let replacesName := !isPlain || asLink || given.has "remove-destination" ||
        (transfer.backup? target).isSome
      let there ← lookAt target (!replacesName || isDir)
      if let .error e := there then
        if e != .notFound && FilePath.endsWithSlash target then
          return ← transfer.fail made ("cannot stat " ++ call.path target ++ ": " ++ e.description)
      if let .ok (found, other) := there then
        let isSame := found == id && !(isDir && !isTop)
        if isSame && !((transfer.backup? target).isSome && !isDir) then
          if given.has "l" then return (0, made)
          return ← transfer.fail made (transfer.pair source " and " target ++
            " are the same file")
        if isDir && !isDirectory other then
          return ← transfer.fail made ("cannot overwrite non-directory " ++
            transfer.pair target " with directory " source)
        if !isDir then
          if isDirectory other then
            return ← transfer.fail made ("cannot overwrite directory " ++ call.path target ++
              " with non-directory")
          let mayReplace ← transfer.mayReplace id found target
          if !mayReplace then
            let isRefused := given.last? ["n", "f", "i"] == some "i"
            return (if isRefused then 1 else 0, made)
          if isTop && made.contains found then
            return ← transfer.fail made ("will not overwrite just-created " ++
              transfer.pair target " with " source)
      let dangles ← (do
        match ← lookAt target, there with
        | .ok (_, .link _), .error .notFound => return isPlain && !replacesName
        | _, _ => return false : Act Bool)
      if dangles then
        return ← transfer.fail made ("not writing through dangling symlink " ++ call.path target)
      let backup := if there.toBool && !isDir then transfer.backup? target else none
      if let some path := backup then
        let _ ← Act.changeTree fun tree dir => tree.rename dir target path
      else if there.toBool && !isDir && replacesName then
        let _ ← Act.changeTree fun tree dir => tree.unlink dir target
      match content with
      | .directory .. =>
        let inner := fun made source target => copy transfer top depth false made source target
        transfer.copyDirectory top inner made id source target there.toBool
      | .link path =>
        if given.has "l" then transfer.copyAsLink made none id source target
        else transfer.copyAsLink made (some path) id source target
      | _ =>
        if given.has "s" then transfer.copyAsLink made (some source) id source target
        else if given.has "l" then transfer.copyAsLink made none id source target
        else if isPlain then transfer.copyContent made id content source target backup
        else
          let result ← Act.changeTree fun tree dir => do
            let (place, last) ← tree.vacancy (← tree.resolve dir target false)
            return (tree.grow place last content (tree.node id).rights).2
          match result with
          | .ok () =>
            transfer.tell source target none
            return (0, made)
          | .error e =>
            transfer.fail made ("cannot create special file " ++ call.path target ++ ": " ++
              e.description)
/-- Moves one path to another. -/
def move (transfer : Transfer) (made : List NodeId) (source target : String) : Act Outcome := do
  let call := transfer.call
  match ← lookAt source with
  | .error e => transfer.fail made ("cannot stat " ++ call.path source ++ ": " ++ e.description)
  | .ok (id, content) =>
    let isDir := isDirectory content
    let there ← lookAt target
    let isSameName ← Act.viewTree fun tree dir =>
      let place (path : String) : Option (NodeId × Option String) :=
        ((tree.resolve dir path false).toOption).map fun spot => (spot.dir, spot.name)
      place source == place target
    if let .ok (found, other) := there then
      let leadsHere ← (match content with
        | .link _ => do return (← Act.find source).toOption == some found
        | _ => return false : Act Bool)
      if found = id || isSameName || leadsHere then
        return ← transfer.fail made (transfer.pair source " and " target ++ " are the same file")
      if isDir && !isDirectory other then
        return ← transfer.fail made ("cannot overwrite non-directory " ++
          transfer.pair target " with directory " source)
      if !isDir && isDirectory other then
        return ← transfer.fail made ("cannot overwrite directory " ++ call.path target ++
          " with non-directory")
      let mayReplace ← transfer.mayReplace id found target
      if !mayReplace then return (0, made)
      if made.contains found then
        return ← transfer.fail made ("will not overwrite just-created " ++
          transfer.pair target " with " source)
    let backup := if there.toBool then transfer.backup? target else none
    if let some path := backup then
      let _ ← Act.changeTree fun tree dir => tree.rename dir target path
    match ← Act.changeTree fun tree dir => tree.rename dir source target with
    | .ok () =>
      transfer.tell source target backup
      return (0, id :: made)
    | .error .invalidArgument =>
      if isDir then
        transfer.fail made ("cannot move " ++ call.path source ++
          " to a subdirectory of itself, " ++ call.path target)
      else transfer.fail made ("cannot move " ++ transfer.pair source " to " target ++ ": " ++
        OsError.invalidArgument.description)
    | .error e =>
      transfer.fail made ("cannot move " ++ transfer.pair source " to " target ++ ": " ++
        e.description)

/-- Copies or moves one source. -/
def one (transfer : Transfer) (made : List NodeId) (source target : String) : Act Outcome :=
  if transfer.moves then transfer.move made source target
  else transfer.copy (source, target) maxNesting true made source target

/-- Makes the directories in which a file with all its path is to be. -/
def makeParents (transfer : Transfer) (dir source : String) : Act Unit := do
  let above := beginningsOf source
  for path in above do
    let inner := FilePath.join dir path
    let made ← Act.changeTree fun tree base => tree.makeDirectory base inner
    if made.toBool && transfer.given.has "v" then
      transfer.call.print (path ++ " -> " ++ inner ++ "\n")
where
  /-- The beginnings of a path that end before a slash. -/
  beginningsOf (path : String) : List String :=
    let names := FilePath.segments path
    (List.range (names.length - 1)).map fun i => "/".intercalate (names.take (i + 1))

/-- Copies or moves files to where arguments say. -/
def all (transfer : Transfer) (paths : List String) : Act Nat := do
  let call := transfer.call
  let given := transfer.given
  if let some dir := given.value? "t" then
    if !paths.isEmpty && !(← leadsToDirectory dir) then
      let e ← match ← Act.find dir with
        | .ok _ => pure OsError.notDirectory
        | .error e => pure e
      return ← call.refuse ("target directory " ++ call.path dir ++ ": " ++ e.description)
  let (sources, destination) ← destinationOf call given leadsToDirectory paths
  match destination with
  | .path target =>
    if given.has "parents" then
      return ← call.misused "with --parents, the destination must be a directory"
    let (status, _) ← sources.foldlM (fun (status, made) source => do
      let (found, made) ← transfer.one made source target
      return (max status found, made)) (0, [])
    return status
  | .into dir =>
    let (status, _, _) ← sources.foldlM (fun (status, made, seen) source => do
      let source := if given.has "strip-trailing-slashes" then withoutEndSlashes source else source
      if seen.contains source && !transfer.moves then
        call.complain ("warning: source file " ++ call.path source ++
          " specified more than once")
        return (status, made, seen)
      if given.has "parents" then transfer.makeParents dir source
      let last := if given.has "parents" then withoutEndSlashes source else lastOf source
      let last := if last = ".." then "." else last
      let (found, made) ← transfer.one made source (FilePath.join dir last)
      return (max status found, made, source :: seen)) (0, [], [])
    return status

end Transfer

/-- Copies files. -/
def cp : Tool := withOptions ("a,archive b ,backup? ,attributes-only ,copy-contents d f,force " ++
    "i,interactive H l,link L,dereference n,no-clobber P,no-dereference p ,preserve? " ++
    ",no-preserve= ,parents R r,recursive ,reflink? ,remove-destination ,sparse= " ++
    ",strip-trailing-slashes s,symbolic-link S,suffix= t,target-directory= " ++
    "T,no-target-directory u,update v,verbose x,one-file-system Z ,context?")
    fun given paths call =>
  Transfer.all ⟨call, given, false⟩ paths

/-- Moves files. -/
def mv : Tool := withOptions ("b ,backup? f,force i,interactive n,no-clobber " ++
    ",strip-trailing-slashes S,suffix= t,target-directory= T,no-target-directory u,update " ++
    "v,verbose Z,context") fun given paths call =>
  Transfer.all ⟨call, given, true⟩ paths

end StagedBuild.Script.Tools
