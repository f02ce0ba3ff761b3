import StagedBuild.FileTree
import StagedBuild.Process.Signal
import StagedBuild.Text.Octets

/-!
# The world of processes

A file tree, the files and pipes that are open on it, and the processes that run. Several
descriptors may share one channel, and then they share its place in the file. Time passes as steps
are taken and while everybody waits.
-/

namespace StagedBuild.Process

/-- An open file, or one end of a pipe. -/
inductive Channel where
  | readEnd (pipe : Nat)
  | writeEnd (pipe : Nat)
  /-- Both ends of a pipe. -/
  | bothEnds (pipe : Nat)
  /-- A place in a file. Appending channels always write at the end. -/
  | file (node : NodeId) (position : Nat) (reads writes appends : Bool)
  | directory (node : NodeId)
  | device (device : Device)
  deriving Inhabited

/-- What was written to a pipe and not read yet. -/
structure Pipe where
  bytes : ByteArray := .empty
  /-- How many of the bytes have been read. -/
  start : Nat := 0
  /-- Somebody outside of this world reads it, when all is over. -/
  outside : Bool := false
  deriving Inhabited

/-- How a process ended. -/
inductive Ending where
  | status (status : Nat)
  | signal (signal : Signal)
  deriving DecidableEq, Repr, Inhabited

/-- The status that a shell gives for it. -/
def Ending.code : Ending → Nat
  | .status value => value % 256
  | .signal number => 128 + number

/-- The channels that descriptors stand for. -/
abbrev Descriptors := List (Nat × Nat)

namespace Descriptors

/-- The channel of a descriptor. -/
def channel? (descriptors : Descriptors) (descriptor : Nat) : Option Nat :=
  descriptors.lookup descriptor

/-- Lets a descriptor stand for a channel, or for none. -/
def set (descriptors : Descriptors) (descriptor : Nat) (channel : Option Nat) : Descriptors :=
  (channel.map (descriptor, ·)).toList ++ descriptors.filter (·.1 != descriptor)

end Descriptors

/-- A process. -/
structure ProcessState where
  parent : Nat := 0
  dir : NodeId
  /-- The rights that new files do not get. -/
  mask : Nat := 18
  descriptors : Descriptors
  /-- Signals without effect. -/
  ignored : List Signal := []
  /-- Signals that are kept for the process to handle. -/
  caught : List Signal := []
  pending : List Signal := []
  stopped : Bool := false
  ending : Option Ending := none
  /-- Its parent has been told of its end. -/
  reaped : Bool := false
  deriving Inhabited

/-- Everything that processes act on. -/
structure World where
  tree : FileTree
  channels : Array Channel := #[]
  pipes : Array Pipe := #[]
  /-- All processes, by their numbers. -/
  processes : Array ProcessState := #[]
  /-- The numbers of those that have not ended. -/
  running : List Nat := []
  /-- The numbers of those that have ended without their parents knowing. -/
  untold : List Nat := []
  /-- The number of the process that acts. -/
  current : Nat := 0
  /-- The time, in billionths of a second. -/
  clock : Nat := 0

namespace World

/-- What is added to the place of a process to give its number. -/
def firstNumber : Nat := 4242

/-- The process of a number. -/
def process (world : World) (number : Nat) : ProcessState :=
  world.processes.getD (number - firstNumber) { dir := 0, descriptors := [] }

/-- Changes a process. -/
def setProcess (world : World) (number : Nat) (change : ProcessState → ProcessState) : World :=
  { world with processes := world.processes.modify (number - firstNumber) change }

/-- The process that acts. -/
def actor (world : World) : ProcessState :=
  world.process world.current

/-- Changes the process that acts. -/
def setActor (world : World) (change : ProcessState → ProcessState) : World :=
  world.setProcess world.current change

/-- Adds a process. -/
def addProcess (world : World) (process : ProcessState) : Nat × World :=
  let number := firstNumber + world.processes.size
  (number, { world with
    processes := world.processes.push process, running := number :: world.running })

/-- How exactly changes of files are noted: in four thousandths of a second. -/
def tick : Nat := 4000000

/-- Lets time pass. -/
def pass (world : World) (time : Nat) : World :=
  let clock := world.clock + time
  { world with clock, tree := { world.tree with now := clock / tick * tick } }

/-! ### Channels -/

/-- Adds a channel: its number, and the world with it. -/
def add (world : World) (channel : Channel) : Nat × World :=
  (world.channels.size, { world with channels := world.channels.push channel })

/-- The channel of a number. -/
def channel (world : World) (number : Nat) : Channel :=
  world.channels.getD number (.device .null)

/-- Replaces the channel of a number. -/
def setChannel (world : World) (number : Nat) (channel : Channel) : World :=
  { world with channels := world.channels.setIfInBounds number channel }

/-- The channel of a descriptor of the process that acts. -/
def opened? (world : World) (descriptor : Nat) : Option Nat :=
  world.actor.descriptors.channel? descriptor

/-- Adds a pipe, with what is in it already. -/
def addPipe (world : World) (pipe : Pipe := {}) : Nat × World :=
  (world.pipes.size, { world with pipes := world.pipes.push pipe })

/-- The pipe of a number. -/
def pipe (world : World) (number : Nat) : Pipe :=
  world.pipes.getD number {}

/-- Somebody has a channel of this kind. -/
def anyOpen (world : World) (which : Channel → Bool) : Bool :=
  world.running.any fun number =>
    (world.process number).descriptors.any fun (_, channel) => which (world.channel channel)

/-- Somebody can still read from a pipe. -/
def isRead (world : World) (pipe : Nat) : Bool :=
  (world.pipe pipe).outside || world.anyOpen fun
    | .readEnd number | .bothEnds number => number == pipe
    | _ => false

/-- Somebody can still write to a pipe. -/
def isWritten (world : World) (pipe : Nat) : Bool :=
  world.anyOpen fun
    | .writeEnd number | .bothEnds number => number == pipe
    | _ => false

/-- There is something to be read in a pipe. -/
def isFilled (world : World) (pipe : Nat) : Bool :=
  let found := world.pipe pipe
  found.start < found.bytes.size

/-- How many bytes a pipe holds. -/
def capacity : Nat := 65536

/-- How many more bytes fit into a pipe. -/
def room (world : World) (pipe : Nat) : Nat :=
  let found := world.pipe pipe
  if found.outside then capacity else capacity - (found.bytes.size - found.start)

/-! ### Reading -/

/-- Reading from a channel does not have to wait. -/
def canRead (world : World) (channel : Nat) : Bool :=
  match world.channel channel with
  | .readEnd pipe | .bothEnds pipe =>
    world.isFilled pipe || !world.isWritten pipe
  | _ => true

/-- Takes bytes out of a pipe. -/
def takeFrom (world : World) (number count : Nat) : ByteArray × World :=
  let pipe := world.pipe number
  let stop := min (pipe.start + count) pipe.bytes.size
  let found := pipe.bytes.extract pipe.start stop
  let pipe := if stop = pipe.bytes.size then { pipe with bytes := .empty, start := 0 }
    else { pipe with start := stop }
  (found, { world with pipes := world.pipes.setIfInBounds number pipe })

/-- Reads at most so many bytes from a channel; none at its end. -/
def read (world : World) (number count : Nat) : Except OsError ByteArray × World :=
  match world.channel number with
  | .readEnd pipe | .bothEnds pipe =>
    let (found, world) := world.takeFrom pipe count
    (.ok found, world)
  | .file node position true writes appends =>
    match world.tree.content node with
    | .file bytes =>
      let found := bytes.extract position (position + count)
      (.ok found, world.setChannel number
        (.file node (position + found.size) true writes appends))
    | _ => (.ok .empty, world)
  | .device .zero | .device .full => (.ok ⟨Array.replicate count 0⟩, world)
  | .device .random =>
    (.ok ⟨(Array.range count).map fun i => UInt8.ofNat ((i + world.clock) * 2654435761 / 8192)⟩,
      world)
  | .device _ => (.ok .empty, world)
  | .directory _ => (.error .isDirectory, world)
  | .writeEnd _ | .file .. => (.error .badDescriptor, world)

/-- The number of bytes up to the end of the first line, from a place on; all of them if no line
ends. -/
def lineLength (bytes : ByteArray) (start : Nat) : Nat :=
  match (bytes.extract start bytes.size).findIdx? (· == 10) with
  | some index => index + 1
  | none => bytes.size - start

/-- Reads bytes from a channel up to the end of a line, or those that are there. -/
def readLine (world : World) (number : Nat) : Except OsError ByteArray × World :=
  let count := match world.channel number with
    | .readEnd pipe | .bothEnds pipe =>
      let found := world.pipe pipe
      lineLength found.bytes found.start
    | .file node position .. =>
      match world.tree.content node with
      | .file bytes => lineLength bytes position
      | _ => 1
    | _ => 1
  world.read number count

/-! ### Writing -/

/-- Bytes with others written over them from a place on; a gap is filled with zeros. -/
def overwrite (bytes : ByteArray) (position : Nat) (written : ByteArray) : ByteArray :=
  if position = bytes.size then bytes ++ written
  else
    let gap : ByteArray := ⟨Array.replicate (position - bytes.size) 0⟩
    bytes.extract 0 position ++ gap ++ written ++
      bytes.extract (position + written.size) bytes.size

/-- Writing so many bytes to a channel does not have to wait. -/
def canWrite (world : World) (channel count : Nat) : Bool :=
  match world.channel channel with
  | .writeEnd pipe | .bothEnds pipe => min count 4096 ≤ world.room pipe || !world.isRead pipe
  | _ => true

/-- Writes to a channel: how many bytes were written. -/
def write (world : World) (number : Nat) (written : ByteArray) : Except OsError Nat × World :=
  match world.channel number with
  | .writeEnd pipe | .bothEnds pipe =>
    if !world.isRead pipe then (.error .brokenPipe, world)
    else
      let count := min written.size (world.room pipe)
      let part := if count = written.size then written else written.extract 0 count
      (.ok count, { world with
        pipes := world.pipes.modify pipe fun pipe => { pipe with bytes := pipe.bytes ++ part } })
  | .file node position reads true appends =>
    match world.tree.content node with
    | .file bytes =>
      let position := if appends then bytes.size else position
      let tree := world.tree.update node fun found => { found with
        content := match found.content with
          | .file bytes => .file (overwrite bytes position written)
          | other => other
        changed := world.tree.now }
      (.ok written.size, { world with tree }.setChannel number
        (.file node (position + written.size) reads true appends))
    | _ => (.ok written.size, world)
  | .device .full => (if written.isEmpty then .ok 0 else .error .noSpace, world)
  | .device _ => (.ok written.size, world)
  | .readEnd _ | .file .. | .directory _ => (.error .badDescriptor, world)

/-! ### Opening -/

/-- How a file is opened. -/
structure Access where
  reads : Bool := false
  writes : Bool := false
  appends : Bool := false
  /-- The file is made if there is none. -/
  makes : Bool := false
  /-- There must be no file. -/
  onlyNew : Bool := false
  /-- The file is emptied. -/
  empties : Bool := false

namespace Access

/-- For reading only. -/
def reading : Access := { reads := true }

/-- For writing from the start, into a file that is empty then. -/
def writing : Access := { writes := true, makes := true, empties := true }

/-- For writing at the end. -/
def appending : Access := { writes := true, makes := true, appends := true }

end Access

/-- The channel that a node becomes when it is opened. -/
def openNode (world : World) (access : Access) (id : NodeId) : Except OsError (Nat × World) := do
  match world.tree.content id with
  | .directory .. =>
    if access.writes then throw .isDirectory else return world.add (.directory id)
  | .device .terminal => throw .noDevice
  | .queue pipe => return world.add (match access.reads, access.writes with
    | true, true => .bothEnds pipe
    | true, false => .readEnd pipe
    | false, _ => .writeEnd pipe)
  | .device device => return world.add (.device device)
  | .program _ =>
    if access.writes then throw .permissionDenied
    return world.add (.device .null)
  | .file bytes =>
    let world := if access.empties && !bytes.isEmpty then
      { world with tree := world.tree.setContent id (.file .empty) } else world
    return world.add (.file id 0 access.reads access.writes access.appends)
  | .link _ => throw .tooManyLinks

/-- Opens a channel once more, from its start. -/
def reopen (world : World) (access : Access) (channel : Nat) : Except OsError (Nat × World) := do
  match world.channel channel with
  | .readEnd pipe | .writeEnd pipe | .bothEnds pipe =>
    return world.add (if access.writes then .writeEnd pipe else .readEnd pipe)
  | .file node .. | .directory node => world.openNode access node
  | .device device => return world.add (.device device)

/-- Opens what a path denotes: the number of its channel. -/
def openPath (world : World) (access : Access) (path : String) :
    Except OsError (Nat × World) := do
  let actor := world.actor
  let spot ← if access.makes then world.tree.resolveFile actor.dir path
    else world.tree.resolve actor.dir path
  match spot.node with
  | some id =>
    match world.tree.content id with
    | .device (.descriptor number) =>
      match actor.descriptors.channel? number with
      | some channel => world.reopen access channel
      | none => throw .notFound
    | _ =>
      if access.onlyNew && access.makes then throw .alreadyExists
      if access.makes && spot.name.isNone then throw .isDirectory
      world.openNode access id
  | none =>
    if !access.makes then throw .notFound
    let (dir, name) ← world.tree.vacancy spot
    let rights := 438 &&& (511 ^^^ actor.mask)
    let (id, tree) := world.tree.grow dir name (.file .empty) rights
    { world with tree }.openNode access id

/-! ### Signals and ends -/

/-- Notes that a process has ended: its descriptors are closed, and its parent gets a signal. -/
def finish (world : World) (number : Nat) (ending : Ending) : World :=
  let parent := (world.process number).parent
  let world := world.setProcess number fun process =>
    { process with ending := some ending, descriptors := [] }
  let world := { world with
    running := world.running.filter (· != number), untold := number :: world.untold }
  world.setProcess parent fun process =>
    if process.caught.contains 17 then { process with pending := process.pending ++ [17] }
    else process

/-- Tells the process that acts of all its children that have ended. -/
def reap (world : World) : World :=
  let isChild (number : Nat) : Bool := (world.process number).parent == world.current
  let told := world.untold.filter isChild
  let world := { world with untold := world.untold.filter (!isChild ·) }
  told.foldl (fun world number =>
    world.setProcess number fun process => { process with reaped := true }) world

/-- Sends a signal to a process that has not ended. -/
def deliver (world : World) (number : Nat) (signal : Signal) : World :=
  let process := world.process number
  let isCertain := Signal.isCertain signal
  if process.ending.isSome then world
  else if !isCertain && process.ignored.contains signal then world
  else if !isCertain && process.caught.contains signal then
    world.setProcess number fun process =>
      { process with pending := process.pending ++ [signal] }
  else match Signal.effect signal with
    | .nothing => world
    | .continues => world.setProcess number fun process => { process with stopped := false }
    | .stops => world.setProcess number fun process => { process with stopped := true }
    | .endsProcess => world.finish number (.signal signal)

/-- The bytes that were written to a pipe. -/
def collected (world : World) (pipe : Nat) : ByteArray :=
  (world.pipe pipe).bytes

end World

end StagedBuild.Process
