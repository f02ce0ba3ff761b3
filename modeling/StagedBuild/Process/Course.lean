import StagedBuild.Process.World

/-!
# What processes do

The course of a process is what it does next: a step on the world, or waiting for something, or
starting another process. Processes take turns: each goes on until it has to wait or has had its
share of steps. When all are waiting, time passes until one of them wakes.

An `Act` is a part of a course that gives a value to what follows it.
-/

namespace StagedBuild.Process

/-- What a process does next. -/
inductive Course where
  | ended (ending : Ending)
  | step (act : World → Course × World)
  /-- Waits until the world is ready, or until a time. -/
  | await (ready : World → Bool) (wake : Option Nat) (next : Course)
  /-- Starts another process, whose number is given to what follows. -/
  | fork (child : Course) (next : Nat → Course)
  /-- It went on for too long. -/
  | exhausted

instance : Inhabited Course := ⟨.exhausted⟩

/-- A part of a course with a value. -/
def Act (α : Type) : Type := (α → Course) → Course

namespace Act

instance : Monad Act where
  pure a := fun next => next a
  bind act rest := fun next => act fun a => rest a next

instance : LawfulMonad Act := LawfulMonad.mk' Act
  (fun _ => rfl) (fun _ _ => rfl) (fun _ _ _ => rfl)

/-- A step on the world. -/
def sys {α : Type} (act : World → α × World) : Act α := fun next =>
  .step fun world =>
    let (found, world) := act world
    (next found, world)

/-- Something that is seen in the world. -/
def view {α : Type} (look : World → α) : Act α :=
  sys fun world => (look world, world)

/-- A change of the world. -/
def change (act : World → World) : Act Unit :=
  sys fun world => ((), act world)

/-- Ends the process. -/
def finish {α : Type} (ending : Ending) : Act α := fun _ => .ended ending

/-- Ends the process with a status. -/
def exit {α : Type} (status : Nat) : Act α := finish (.status (status % 256))

/-- Ends everything, because it takes too long. -/
def exhaust {α : Type} : Act α := fun _ => .exhausted

/-- Waits until the world is ready. -/
def await (ready : World → Bool) : Act Unit := fun next => .await ready none (next ())

/-- Waits until the world is ready or the time has come. -/
def awaitUntil (wake : Nat) (ready : World → Bool) : Act Unit := fun next =>
  .await ready (some wake) (next ())

/-- Starts another process; its number. -/
def fork (child : Act Ending) : Act Nat := fun next => .fork (child .ended) next

/-- The number of the process. -/
def number : Act Nat := view (·.current)

/-! ### Channels -/

/-- The channel of a descriptor. -/
def channel? (descriptor : Nat) : Act (Option Nat) := view (·.opened? descriptor)

/-- Lets a descriptor stand for a channel, or for none. -/
def connect (descriptor : Nat) (channel : Option Nat) : Act Unit :=
  change (·.setActor fun process =>
    { process with descriptors := process.descriptors.set descriptor channel })

/-- The number from which on descriptors are kept out of the reach of programs. -/
def firstHidden : Nat := 1000

/-- A path denotes a pipe. -/
def isQueue (path : String) : Act Bool :=
  view fun world => match world.tree.find world.actor.dir path with
    | .ok id =>
      match world.tree.content id with
      | .queue _ => true
      | _ => false
    | .error _ => false

/-- Opens what a path denotes. Opening a pipe by its name waits for somebody at its other end. -/
def openPath (access : World.Access) (path : String) : Act (Except OsError Nat) := do
  let opened : Except OsError Nat ← sys fun world => match world.openPath access path with
    | .ok (channel, world) => (.ok channel, world)
    | .error e => (.error e, world)
  match opened with
  | .error e => return .error e
  | .ok channel =>
    if ← isQueue path then
      let hidden := firstHidden + 100000
      connect hidden (some channel)
      await fun world => match world.channel channel with
        | .readEnd pipe => world.isFilled pipe || world.isWritten pipe
        | .writeEnd pipe => world.isRead pipe
        | _ => true
      connect hidden none
    return .ok channel

/-- A channel from which a text can be read. -/
def source (text : String) : Act Nat :=
  sys fun world =>
    let (pipe, world) := world.addPipe { bytes := Text.Octets.toArray text }
    world.add (.readEnd pipe)

/-- Makes a pipe: the channels of its ends, for reading and for writing. -/
def pipe : Act (Nat × Nat) :=
  sys fun world =>
    let (pipe, world) := world.addPipe
    let (reading, world) := world.add (.readEnd pipe)
    let (writing, world) := world.add (.writeEnd pipe)
    ((reading, writing), world)

/-- Reads at most so many bytes from a channel; none at its end. -/
def readChannel (channel count : Nat) : Act (Except OsError ByteArray) := do
  await (·.canRead channel)
  sys (·.read channel count)

/-- How many bytes are read at once. -/
def blockSize : Nat := 65536

/-- How often a process may read or write before it has taken too long. -/
def maxRounds : Nat := 10000000

/-- Reads all that is left in a channel. -/
def readRest (channel : Nat) : (count : Nat) → ByteArray → Act (Except OsError ByteArray)
  | 0, _ => exhaust
  | count + 1, found => do
    match ← readChannel channel blockSize with
    | .error e => return .error e
    | .ok more => if more.isEmpty then return .ok found else readRest channel count (found ++ more)

/-- Sends a signal to the process itself, which may end it. -/
def raise (signal : Signal) : Act Unit := do
  change fun world => world.deliver world.current signal
  match ← view (·.actor.ending) with
  | some ending => finish ending
  | none => return

/-- Writes bytes to a channel, as soon as they fit. -/
def writeChannel (channel : Nat) : (count : Nat) → ByteArray → Act (Except OsError Unit)
  | 0, _ => return .ok ()
  | count + 1, bytes => do
    if bytes.isEmpty then return .ok ()
    await (·.canWrite channel bytes.size)
    match ← sys (·.write channel bytes) with
    | .ok written =>
      if written = bytes.size then return .ok ()
      else writeChannel channel count (bytes.extract written bytes.size)
    | .error .brokenPipe => do
      raise 13
      return .error .brokenPipe
    | .error e => return .error e

/-- Writes text to a descriptor. -/
def write (descriptor : Nat) (text : String) : Act (Except OsError Unit) := do
  if text.isEmpty then return .ok ()
  match ← channel? descriptor with
  | none => return .error .badDescriptor
  | some channel =>
    let bytes := Text.Octets.toArray text
    writeChannel channel (bytes.size + 1) bytes

/-- Reads at most so many bytes from a descriptor; none at its end. -/
def read (descriptor count : Nat) : Act (Except OsError String) := do
  match ← channel? descriptor with
  | none => return .error .badDescriptor
  | some channel => return (← readChannel channel count).map Text.Octets.ofArray

/-- Reads from a descriptor up to the end of a line, or what is there; nothing at its end, or when a
signal has come that the process handles. -/
def readLine (descriptor : Nat) : Act (Except OsError String) := do
  match ← channel? descriptor with
  | none => return .error .badDescriptor
  | some channel =>
    await fun world => world.canRead channel || !world.actor.pending.isEmpty
    if ← view fun world => !world.canRead channel then return .ok ""
    return (← sys (·.readLine channel)).map Text.Octets.ofArray

/-- Reads all that is left for a descriptor. -/
def readAll (descriptor : Nat) : Act (Except OsError String) := do
  match ← channel? descriptor with
  | none => return .error .badDescriptor
  | some channel => return (← readRest channel maxRounds .empty).map Text.Octets.ofArray

/-- Does something with a file that is open meanwhile, for a descriptor that is not in use. -/
def withFile {α : Type} (access : World.Access) (path : String)
    (act : (descriptor : Nat) → Act α) : Act (Except OsError α) := do
  match ← openPath access path with
  | .error e => return .error e
  | .ok channel =>
    let used ← view (·.actor.descriptors)
    let descriptor := used.foldl (fun found (number, _) => max found (number + 1)) 20
    connect descriptor (some channel)
    let found ← act descriptor
    connect descriptor none
    return .ok found

/-- The content of a file. -/
def readFile (path : String) : Act (Except OsError String) := do
  match ← withFile .reading path readAll with
  | .ok (.ok text) => return .ok text
  | .ok (.error e) | .error e => return .error e

/-! ### Keeping descriptors -/

/-- Keeps the channels of descriptors under hidden ones: each with the one that keeps it, if it is
open. -/
def keep (descriptors : List Nat) : Act (List (Nat × Option Nat)) :=
  sys fun world => descriptors.eraseDups.foldl (fun (kept, world) descriptor =>
    let opened := world.actor.descriptors
    match opened.channel? descriptor with
    | none => ((descriptor, none) :: kept, world)
    | some channel =>
      let hidden := opened.foldl (fun found (number, _) => max found (number + 1)) firstHidden
      ((descriptor, some hidden) :: kept, world.setActor fun process =>
        { process with descriptors := process.descriptors.set hidden (some channel) }))
    ([], world)

/-- Keeps a channel open; the descriptor that stands for it. -/
def hide (channel : Nat) : Act Nat :=
  sys fun world =>
    let hidden := world.actor.descriptors.foldl (fun found (number, _) => max found (number + 1))
      firstHidden
    (hidden, world.setActor fun process =>
      { process with descriptors := process.descriptors.set hidden (some channel) })

/-- Puts back the channels that were kept. -/
def putBack (kept : List (Nat × Option Nat)) : Act Unit :=
  change fun world => kept.foldl (fun world (descriptor, hidden) =>
    world.setActor fun process =>
      let channel := hidden.bind process.descriptors.channel?
      let descriptors := process.descriptors.set descriptor channel
      { process with
        descriptors := hidden.elim descriptors fun hidden => descriptors.set hidden none })
    world

/-- Closes hidden descriptors, and lets the signals that were handled have their usual effect: what
happens to a process when it becomes another program. -/
def renew : Act Unit :=
  change (·.setActor fun process => { process with
    descriptors := process.descriptors.filter (·.1 < firstHidden), caught := [], pending := [] })

/-! ### The file tree -/

/-- Looks at the file tree from the directory of the process. -/
def viewTree {α : Type} (look : FileTree → NodeId → α) : Act α :=
  view fun world => look world.tree world.actor.dir

/-- The node that a path denotes. -/
def find (path : String) (follow : Bool := true) : Act (Except OsError NodeId) :=
  viewTree fun tree dir => tree.find dir path follow

/-- Carries out a change of the file tree. -/
def changeTree (act : FileTree → NodeId → Except OsError FileTree) :
    Act (Except OsError Unit) :=
  sys fun world => match act world.tree world.actor.dir with
    | .ok tree => (.ok (), { world with tree })
    | .error e => (.error e, world)

/-! ### Time and other processes -/

/-- Waits for so many billionths of a second. -/
def sleep (time : Nat) : Act Unit := do
  let now ← view (·.clock)
  awaitUntil (now + time) fun _ => false

/-- Waits for the end of a process. -/
def waitFor (number : Nat) : Act Ending := do
  await fun world => (world.process number).ending.isSome
  return (← view fun world => (world.process number).ending).getD (.status 0)

/-- Sends a signal to a process. -/
def send (target : Nat) (signal : Signal) : Act (Except OsError Unit) := do
  if target = (← number) then
    raise signal
    return .ok ()
  sys fun world =>
    if target < World.firstNumber || World.firstNumber + world.processes.size ≤ target ||
        (world.process target).reaped then (.error .noProcess, world)
    else (.ok (), world.deliver target signal)

end Act

namespace Course

/-- How many steps a process takes at once. -/
def share : Nat := 4000

/-- How long a step takes, and starting a process, in billionths of a second. -/
def stepTime : Nat := 2000
@[inherit_doc stepTime] def forkTime : Nat := 400000

/-- Where a turn of a process ended: its course from there, the processes that it started, and the
world. -/
structure Turn where
  course : Course
  started : List (Nat × Course)
  world : World

/-- The copy of a process that starts as its child. -/
def childOf (world : World) : ProcessState :=
  { world.actor with parent := world.current, pending := [] }

/-- A turn of a process. -/
def turn (number : Nat) : (steps : Nat) → List (Nat × Course) → Course → World → Turn
  | 0, started, course, world => ⟨course, started, world⟩
  | steps + 1, started, course, world =>
    match course with
    | .step act =>
      let (course, world) := act (world.pass stepTime)
      if (world.process number).ending.isSome || (world.process number).stopped then
        ⟨course, started, world⟩
      else turn number steps started course world
    | .fork child next =>
      let (other, world) := (world.pass forkTime).addProcess (childOf world)
      turn number steps (started ++ [(other, child)]) (next other) world
    | .await ready wake next =>
      if ready world || wake.any (· ≤ world.clock) then turn number steps started next world
      else ⟨course, started, world⟩
    | .ended ending => ⟨.ended ending, started, world.finish number ending⟩
    | .exhausted => ⟨.exhausted, started, world⟩

/-- The process can go on. -/
def isReady (world : World) (number : Nat) : Course → Bool
  | .await ready wake _ =>
    !(world.process number).stopped && (ready world || wake.any (· ≤ world.clock))
  | _ => !(world.process number).stopped

/-- When the process wakes by itself. -/
def wake? : Course → Option Nat
  | .await _ wake _ => wake
  | _ => none

/-- The first process that can go on, and the others, with those before it behind those after
it. -/
def next? (world : World) (waiting : List (Nat × Course)) :
    List (Nat × Course) → Option ((Nat × Course) × List (Nat × Course))
  | [] => none
  | first :: rest =>
    if isReady world first.1 first.2 then some (first, rest ++ waiting.reverse)
    else next? world (first :: waiting) rest

/-- Lets processes take turns until nothing more happens or `enough` says so; false if that takes
too long. -/
def runAll (enough : World → Bool) :
    (turns : Nat) → List (Nat × Course) → World → Bool × World
  | 0, _, world => (false, world)
  | turns + 1, queue, world =>
    let queue := queue.filter fun (number, _) => (world.process number).ending.isNone
    if queue.isEmpty || enough world then (true, world)
    else match next? world [] queue with
      | some ((number, course), rest) =>
        let turn := turn number share [] course { world with current := number }
        match turn.course with
        | .exhausted => (false, turn.world)
        | course => runAll enough turns (rest ++ turn.started ++ [(number, course)]) turn.world
      | none =>
        match (queue.filterMap fun (number, course) =>
            if (world.process number).stopped then none else wake? course).min? with
        | some time => runAll enough turns queue (world.pass (time - world.clock))
        | none => (true, world)

end Course

end StagedBuild.Process
