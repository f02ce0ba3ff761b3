import StagedBuild.FilePath
import StagedBuild.OsError

/-!
# File trees

A tree of directories, files, links, programs and devices, and the operations on it. What a name
stands for is a node, which may have several names and lives on without any as long as somebody
works with it. Names and paths are octets. An operation fails with the error that the system would
report: a name on the way that does not exist or is no directory, a name of more than 255 bytes, a
path of more than 4095, a directory where a file is needed.
-/

namespace StagedBuild

/-- Devices: one that swallows everything, one that has no room for anything, one that gives zeros,
one that gives other bytes, the terminal that is not there, and those that stand for the open files
of whoever looks at them. -/
inductive Device where
  | null
  | full
  | zero
  | random
  | terminal
  | descriptor (number : Nat)
  deriving DecidableEq, Repr

/-- The number of a node. -/
abbrev NodeId := Nat

/-- What a node holds. -/
inductive Content where
  /-- The names in a directory with their nodes, and the directory above it. -/
  | directory (entries : List (String × NodeId)) (parent : NodeId)
  | file (bytes : ByteArray)
  /-- Leads on to another path. -/
  | link (path : String)
  /-- A program of the system, known by its name. -/
  | program (name : String)
  | device (device : Device)
  /-- A pipe that has a name, by its number. -/
  | queue (pipe : Nat)
  deriving Inhabited

/-- A directory, a file or something else that has names. -/
structure Node where
  content : Content
  /-- Who may read, write and run it. -/
  rights : Nat
  /-- When the content was changed, in billionths of a second. -/
  changed : Int := 0
  /-- How many names it has. -/
  names : Nat := 1
  deriving Inhabited

/-- The nodes of a tree by their numbers. The first is the directory above all others. -/
structure FileTree where
  nodes : Array Node
  /-- The present, which is noted where nodes are changed. -/
  now : Nat := 0
  deriving Inhabited

/-- Where a path leads: to a name in a directory, which may stand for a node or not. The root and
what is reached by dots has no name there. -/
structure Spot where
  dir : NodeId
  name : Option String
  node : Option NodeId
  deriving DecidableEq, Repr

namespace FileTree

/-- The directory above all others. -/
def root : NodeId := 0

/-- The rights of a new file, of a new program, and of a new directory. -/
def plainRights : Nat := 420
@[inherit_doc plainRights] def programRights : Nat := 493
@[inherit_doc plainRights] def directoryRights : Nat := 493

/-- A tree with nothing but its root. -/
def empty : FileTree :=
  ⟨#[{ content := .directory [] root, rights := directoryRights, names := 2 }], 0⟩

/-- The node of a number. -/
def node (tree : FileTree) (id : NodeId) : Node :=
  tree.nodes.getD id ⟨.device .null, 0, 0, 0⟩

/-- What a node holds. -/
def content (tree : FileTree) (id : NodeId) : Content :=
  (tree.node id).content

/-- The node is a directory. -/
def isDirectory (tree : FileTree) (id : NodeId) : Bool :=
  match tree.content id with
  | .directory .. => true
  | _ => false

/-- The names in a directory with their nodes. -/
def entries (tree : FileTree) (id : NodeId) : List (String × NodeId) :=
  match tree.content id with
  | .directory entries _ => entries
  | _ => []

/-- The directory above a directory. -/
def parent (tree : FileTree) (id : NodeId) : NodeId :=
  match tree.content id with
  | .directory _ parent => parent
  | _ => id

/-- The names in a directory. -/
def children (tree : FileTree) (id : NodeId) : List String :=
  (tree.entries id).map (·.1)

/-- The path that a link leads on to. -/
def link? (tree : FileTree) (id : NodeId) : Option String :=
  match tree.content id with
  | .link path => some path
  | _ => none

/-- Changes a node. -/
def update (tree : FileTree) (id : NodeId) (change : Node → Node) : FileTree :=
  { tree with nodes := tree.nodes.modify id change }

/-- Changes what a node holds, now. -/
def setContent (tree : FileTree) (id : NodeId) (content : Content) : FileTree :=
  tree.update id fun node => { node with content, changed := tree.now }

/-- Adds a node without a name. -/
def add (tree : FileTree) (content : Content) (rights : Nat) : NodeId × FileTree :=
  (tree.nodes.size,
    { tree with nodes := tree.nodes.push { content, rights, changed := tree.now, names := 0 } })

/-! ### Names -/

/-- Gives a node a name in a directory. -/
def bind (tree : FileTree) (dir : NodeId) (name : String) (id : NodeId) : FileTree :=
  let entries := tree.entries dir
  let tree := tree.setContent dir (.directory (entries ++ [(name, id)]) (tree.parent dir))
  tree.update id fun node => { node with names := node.names + 1 }

/-- Takes a name out of a directory. -/
def unbind (tree : FileTree) (dir : NodeId) (name : String) : FileTree :=
  match (tree.entries dir).lookup name with
  | none => tree
  | some id =>
    let entries := (tree.entries dir).filter (·.1 != name)
    let tree := tree.setContent dir (.directory entries (tree.parent dir))
    tree.update id fun node => { node with names := node.names - 1 }

/-- Adds a node with a name in a directory. -/
def grow (tree : FileTree) (dir : NodeId) (name : String) (content : Content) (rights : Nat) :
    NodeId × FileTree :=
  let (id, tree) := tree.add content rights
  (id, tree.bind dir name id)

/-- Adds a directory. It has a name for itself, and its own parent another. -/
def growDirectory (tree : FileTree) (dir : NodeId) (name : String) (rights : Nat) :
    NodeId × FileTree :=
  let (id, tree) := tree.grow dir name (.directory [] dir) rights
  let tree := tree.update dir fun node => { node with names := node.names + 1 }
  (id, tree.update id fun node => { node with names := 2 })

/-! ### Paths -/

/-- Names are at most 255 bytes long. -/
def tooLong (name : String) : Bool :=
  255 < name.length

/-- How many links may lead on to each other. -/
def maxLinks : Nat := 40

/-- Follows names from a directory. A link at the end is followed only if that is asked for. -/
def walk (tree : FileTree) (follow : Bool) :
    (links : Nat) → (dir : NodeId) → (names : List String) → Except OsError Spot
  | _, dir, [] => .ok ⟨dir, none, some dir⟩
  | links, dir, name :: rest =>
    if !tree.isDirectory dir then .error .notDirectory
    else if name = "." then walk tree follow links dir rest
    else if name = ".." then walk tree follow links (tree.parent dir) rest
    else if tooLong name then .error .nameTooLong
    else match (tree.entries dir).lookup name with
      | none => if rest.isEmpty then .ok ⟨dir, some name, none⟩ else .error .notFound
      | some id =>
        match tree.link? id, rest.isEmpty && !follow with
        | some path, false =>
          match links with
          | 0 => .error .tooManyLinks
          | links + 1 =>
            if path.isEmpty then .error .notFound
            else walk tree follow links (if FilePath.startsAtRoot path then root else dir)
              (FilePath.segments path ++ rest)
        | _, _ =>
          if rest.isEmpty then .ok ⟨dir, some name, some id⟩ else walk tree follow links id rest
termination_by links _ names => (links, names.length)

/-- Where a path leads. A path that ends with a slash leads to a directory, or to nothing yet. -/
def resolve (tree : FileTree) (base : NodeId) (path : String) (follow : Bool := true) :
    Except OsError Spot := do
  if path.isEmpty then throw .notFound
  if 4096 ≤ path.length then throw .nameTooLong
  let slash := FilePath.endsWithSlash path
  let spot ← tree.walk (follow || slash) maxLinks
    (if FilePath.startsAtRoot path then root else base) (FilePath.segments path)
  match spot.node with
  | some id => if slash && !tree.isDirectory id then throw .notDirectory
  | none => pure ()
  return spot

/-- Where a path leads to a file that is made if there is none. With a slash at its end it is the
path of a directory, whatever there is. -/
def resolveFile (tree : FileTree) (base : NodeId) (path : String) : Except OsError Spot := do
  let names := FilePath.segments path
  let last := names.getLastD "."
  if !FilePath.endsWithSlash path || last = "." || last = ".." || 4096 ≤ path.length then
    tree.resolve base path
  else
    let above ← tree.walk true maxLinks (if FilePath.startsAtRoot path then root else base)
      names.dropLast
    throw (if above.node.any tree.isDirectory then .isDirectory else .notDirectory)

/-- The node that a path denotes. -/
def find (tree : FileTree) (base : NodeId) (path : String) (follow : Bool := true) :
    Except OsError NodeId := do
  match (← tree.resolve base path follow).node with
  | some id => return id
  | none => throw .notFound

/-- The path denotes something. -/
def isPresent (tree : FileTree) (base : NodeId) (path : String) : Bool :=
  (tree.find base path).toOption.isSome

/-- The path denotes a directory. -/
def leadsToDirectory (tree : FileTree) (base : NodeId) (path : String) : Bool :=
  (tree.find base path).toOption.any tree.isDirectory

/-- The directory has been removed: nobody can give it names any more. -/
def isRemoved (tree : FileTree) (dir : NodeId) : Bool :=
  (tree.node dir).names == 0

/-- Where something new can be made: a name that stands for nothing yet, in a directory that is
still there. -/
def vacancy (tree : FileTree) (spot : Spot) : Except OsError (NodeId × String) :=
  match spot with
  | ⟨dir, some name, none⟩ => if tree.isRemoved dir then .error .notFound else .ok (dir, name)
  | _ => .error .alreadyExists

/-- The names that lead from the root to a directory; nothing if it has been removed. -/
def placeOf? (tree : FileTree) (id : NodeId) : Option (List String) :=
  up tree.nodes.size id []
where
  /-- Goes up to the root. -/
  up : Nat → NodeId → List String → Option (List String)
    | 0, _, _ => none
    | count + 1, id, below =>
      if id = root then some below
      else
        let parent := tree.parent id
        match (tree.entries parent).find? (·.2 == id) with
        | some (name, _) => up count parent (name :: below)
        | none => none

/-! ### Files -/

/-- The bytes of a file. -/
def read (tree : FileTree) (base : NodeId) (path : String) : Except OsError ByteArray := do
  match tree.content (← tree.find base path) with
  | .file bytes => return bytes
  | .directory .. => throw .isDirectory
  | .link _ | .program _ | .device _ | .queue _ => return .empty

/-- The node of a file that a path denotes, which is made if there is none. -/
def openFile (tree : FileTree) (base : NodeId) (path : String) (rights : Nat) :
    Except OsError (NodeId × FileTree) := do
  let spot ← tree.resolveFile base path
  match spot.node with
  | some id => if tree.isDirectory id then throw .isDirectory else return (id, tree)
  | none =>
    let (dir, name) ← tree.vacancy spot
    return tree.grow dir name (.file .empty) rights

/-- Makes a file with this content, or replaces the content of the file that is there. -/
def write (tree : FileTree) (base : NodeId) (path : String) (bytes : ByteArray) :
    Except OsError FileTree := do
  let (id, tree) ← tree.openFile base path plainRights
  match tree.content id with
  | .file _ => return tree.setContent id (.file bytes)
  | .program _ => throw .permissionDenied
  | .device .full => if bytes.isEmpty then return tree else throw .noSpace
  | _ => return tree

/-- Makes one directory in a directory that exists. -/
def makeDirectory (tree : FileTree) (base : NodeId) (path : String)
    (rights : Nat := directoryRights) : Except OsError FileTree := do
  let spot ← match tree.resolve base path false with
    | .error .notDirectory =>
      if FilePath.endsWithSlash path && tree.isPresent base (String.ofList
        (path.toList.reverse.dropWhile (· == '/')).reverse) then throw .alreadyExists
      else throw .notDirectory
    | found => found
  let (dir, name) ← tree.vacancy spot
  return (tree.growDirectory dir name rights).2

/-- Makes a directory, and those above it that do not exist yet, the nearest given first. A path
that denotes a directory already is fine. What was made stays when a later step fails. -/
def makeChain (base : NodeId) : List String → FileTree → Except OsError Unit × FileTree
  | [], tree => (.ok (), tree)
  | path :: above, tree =>
    if path.isEmpty then (.ok (), tree)
    else match tree.makeDirectory base path with
      | .ok tree => (.ok (), tree)
      | .error .notFound =>
        match makeChain base above tree with
        | (.error e, tree) => (.error e, tree)
        | (.ok (), tree) =>
          match tree.makeDirectory base path with
          | .ok tree => (.ok (), tree)
          | .error e => (if tree.leadsToDirectory base path then .ok () else .error e, tree)
      | .error e => (if tree.leadsToDirectory base path then .ok () else .error e, tree)

/-- Makes a directory with all directories above it. -/
def makeDirectories (tree : FileTree) (base : NodeId) (path : String) :
    Except OsError Unit × FileTree :=
  makeChain base (path :: FilePath.above path.length path) tree

/-! ### Changes of names -/

/-- Takes away a name that does not stand for a directory. -/
def unlink (tree : FileTree) (base : NodeId) (path : String) : Except OsError FileTree := do
  match ← tree.resolve base path false with
  | ⟨dir, some name, some id⟩ =>
    if tree.isDirectory id then throw .isDirectory else return tree.unbind dir name
  | ⟨_, none, _⟩ => throw .isDirectory
  | _ => throw .notFound

/-- Takes a directory out of the one above it; it has no names left then. -/
def detach (tree : FileTree) (dir : NodeId) (name : String) (id : NodeId) : FileTree :=
  let tree := tree.unbind dir name
  let tree := tree.update dir fun node => { node with names := node.names - 1 }
  tree.update id fun node => { node with names := 0 }

/-- Removes an empty directory. -/
def removeDirectory (tree : FileTree) (base : NodeId) (path : String) :
    Except OsError FileTree := do
  let names := FilePath.segments path
  let path := if names.isEmpty then path
    else String.ofList (path.toList.reverse.dropWhile (· == '/')).reverse
  match ← tree.resolve base path false with
  | ⟨dir, some name, some id⟩ =>
    if names.getLast? = some "." then throw .invalidArgument
    else if !tree.isDirectory id then throw .notDirectory
    else if !(tree.entries id).isEmpty then throw .notEmpty
    else return tree.detach dir name id
  | ⟨_, none, _⟩ =>
    throw (if names.isEmpty then .busy
      else if names.getLast? = some "." then .invalidArgument else .notEmpty)
  | _ => throw .notFound

/-- One directory is below another, or the same. -/
def isBelow (tree : FileTree) (above : NodeId) (id : NodeId) : Bool :=
  up tree.nodes.size id
where
  /-- Goes up to the root. -/
  up : Nat → NodeId → Bool
    | 0, _ => false
    | count + 1, id => id == above || (id != root && up count (tree.parent id))

/-- Gives what has one name another, in place of what had that before. -/
def rename (tree : FileTree) (base : NodeId) (source target : String) :
    Except OsError FileTree := do
  let old ← tree.resolve base source false
  let new ← tree.resolve base target false
  match old, new with
  | ⟨dir, some name, some id⟩, ⟨newDir, some newName, found⟩ =>
    if tree.isRemoved newDir then throw .notFound
    if tree.isDirectory id && tree.isBelow id newDir then throw .invalidArgument
    if !tree.isDirectory id && FilePath.endsWithSlash target then throw .notDirectory
    let tree ← match found with
      | none => pure tree
      | some other =>
        if other = id then return tree
        else match tree.isDirectory id, tree.isDirectory other with
          | true, true =>
            if (tree.entries other).isEmpty then pure (tree.detach newDir newName other)
            else throw .notEmpty
          | true, false => throw .notDirectory
          | false, true => throw .isDirectory
          | false, false => pure (tree.unbind newDir newName)
    if tree.isDirectory id then
      let count := (tree.node id).names
      let tree := (tree.detach dir name id).bind newDir newName id
      let tree := tree.update newDir fun node => { node with names := node.names + 1 }
      let changed := (tree.node id).changed
      let tree := tree.setContent id (.directory (tree.entries id) newDir)
      return tree.update id fun node => { node with names := count, changed }
    else return (tree.unbind dir name).bind newDir newName id
  | ⟨_, none, _⟩, _ | _, ⟨_, none, _⟩ => throw .busy
  | _, _ => throw .notFound

/-- Gives a node another name. -/
def addName (tree : FileTree) (base : NodeId) (id : NodeId) (path : String) :
    Except OsError FileTree := do
  if tree.isDirectory id then throw .notPermitted
  let (dir, name) ← tree.vacancy (← tree.resolve base path false)
  if FilePath.endsWithSlash path then throw .notFound
  return tree.bind dir name id

/-- Makes a link that leads on to a path. -/
def addLink (tree : FileTree) (base : NodeId) (leadsTo path : String) : Except OsError FileTree := do
  if leadsTo.isEmpty then throw .notFound
  let (dir, name) ← tree.vacancy (← tree.resolve base path false)
  if FilePath.endsWithSlash path then throw .notFound
  return (tree.grow dir name (.link leadsTo) 511).2

end FileTree

end StagedBuild
