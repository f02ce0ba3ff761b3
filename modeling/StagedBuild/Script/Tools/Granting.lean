import StagedBuild.Script.Tools.Mode
import StagedBuild.Script.Tools.Removing

/-!
# Changing rights

Changing who may read, write and run files. Whoever runs tools owns all files, and belongs to a group
of the same name.
-/

namespace StagedBuild.Script.Tools

open Process

/-- How rights are changed. -/
structure Granting where
  call : Call
  given : Given
  /-- The rights after the change: of a directory or not, with a mask, from the rights before it. -/
  change : (isDirectory : Bool) → (mask rights : Nat) → Nat
  mask : Nat
  /-- The change was given as an option, so that the mask may hide some of it. -/
  asOption : Bool

namespace Granting

/-- Changes the rights of a file, and of all below it if that is asked for. Directories may be nested
`depth` deep. -/
def run (granting : Granting) : (depth : Nat) → (isTop : Bool) → (path : String) → Act Nat
  | 0, _, _ => Act.exhaust
  | depth + 1, isTop, path => do
    let call := granting.call
    let given := granting.given
    let complain (problem : String) : Act Nat := do
      if !given.has "f" then call.complain problem
      if given.has "v" then call.print (call.path path ++ " could not be accessed\n")
      return 1
    match ← lookAt path true, ← lookAt path with
    | .error _, .ok (_, .link _) =>
      if !isTop then return 0
      if !given.has "f" then
        call.complain ("cannot operate on dangling symlink " ++ call.path path)
      return 1
    | .error e, _ => complain ("cannot access " ++ call.path path ++ ": " ++ e.description)
    | .ok (id, content), here =>
      let isLink := match here with
        | .ok (_, .link _) => true
        | _ => false
      if isLink && !isTop then return 0
      let old ← Act.viewTree fun tree _ => (tree.node id).rights
      let isDir := isDirectory content
      let new := granting.change isDir granting.mask old
      Act.change fun world => { world with
        tree := world.tree.update id fun node => { node with rights := new } }
      let shown (rights : Nat) : String := rightsNumber rights ++ " (" ++ rightsText rights ++ ")"
      let isChanged := old != new
      if given.has "v" || (given.has "c" && isChanged) then
        call.print ("mode of " ++ call.path path ++ (if isChanged then
            " changed from " ++ shown old ++ " to " else " retained as ") ++ shown new ++ "\n")
      let naive := granting.change isDir 0 old
      let status ← if granting.asOption && Mode.without new naive != 0 then
          call.refuse (call.plainPath path ++ ": new permissions are " ++ rightsText new ++
            ", not " ++ rightsText naive)
        else pure 0
      if given.has "R" && isDir then
        let names ← namesIn id
        let inner ← forEach (fun name =>
          run granting depth false (FilePath.join path name)) names
        return max status inner
      return status

end Granting

/-- The argument is a change of rights that looks like an option. -/
def isModeOption (arg : String) : Bool :=
  match arg.toList with
  | '-' :: c :: _ => "rwxXstugoa,+=01234567".contains c
  | _ => false

/-- Changes rights. -/
def chmod : Tool := fun call => do
  let before := call.args.takeWhile (· != "--")
  let asOptions := before.filter isModeOption
  let args := before.filter (!isModeOption ·) ++ call.args.drop before.length
  withOptions ("R,recursive c,changes f,quiet,silent v,verbose ,reference= ,preserve-root " ++
      ",no-preserve-root") (fun given others call => do
    let source := given.value? "reference"
    let (mode, paths) := match source, asOptions, others with
      | some _, _, paths => (none, paths)
      | none, [], [] => (none, [])
      | none, [], mode :: paths => (some mode, paths)
      | none, modes, paths => (some (",".intercalate modes), paths)
    if paths.isEmpty then
      match mode with
      | some mode =>
        if asOptions.isEmpty then
          return ← call.misused ("missing operand after " ++ call.quoted mode)
        return ← call.misused ("missing operand after " ++ call.quoted (asOptions.getLastD mode))
      | none => return ← call.misused "missing operand"
    let mask ← Act.view (·.actor.mask)
    let change : Bool → Nat → Nat → Nat ← match source, mode with
      | some path, _ =>
        match ← Act.find path with
        | .ok id =>
          let rights ← Act.viewTree fun tree _ => (tree.node id).rights
          pure fun _ _ _ => rights
        | .error e =>
          call.giveUp ("failed to get attributes of " ++ call.path path ++ ": " ++ e.description)
      | none, some text =>
        match Mode.ofText? text with
        | some mode => pure mode.apply
        | none => call.dismiss ("invalid mode: " ++ call.quoted text)
      | none, none => pure fun _ _ rights => rights
    let granting : Granting := ⟨call, given, change, mask, !asOptions.isEmpty⟩
    forEach (granting.run maxNesting true) paths) { call with args }

/-- Changes owners, who may only be those that there are: files stay as they are. -/
def changeOwner (what : String) (isKnown : (name : String) → Bool) : Tool :=
  withOptions ("R,recursive c,changes f,quiet,silent v,verbose h,no-dereference ,dereference " ++
    ",reference= H L P ,from=") fun given args call => do
  match args with
  | [] => call.misused "missing operand"
  | owner :: paths =>
    let (owner, paths) := if given.has "reference" then ("root", args) else (owner, paths)
    if paths.isEmpty then
      return ← call.misused ("missing operand after " ++ call.quoted owner)
    if !isKnown owner then
      return ← call.refuse ("invalid " ++ what ++ ": " ++ call.quoted owner)
    forEach (fun path => do
      match ← Act.find path with
      | .ok _ => return 0
      | .error e =>
        if given.has "f" then return 1
        call.refuse ("cannot access " ++ call.path path ++ ": " ++ e.description)) paths

/-- The name or the number of the only user and group, or nothing. -/
def isRoot (name : String) : Bool :=
  name.isEmpty || name == "root" || name == "0"

/-- Changes the owners of files. -/
def chown : Tool := changeOwner "user" fun text =>
  (Text.splitOn ':' text.toList).all fun name => isRoot (String.ofList name)

/-- Changes the groups of files. -/
def chgrp : Tool := changeOwner "group" isRoot

end StagedBuild.Script.Tools
