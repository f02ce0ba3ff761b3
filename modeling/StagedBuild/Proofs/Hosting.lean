import StagedBuild.CommandLine.Outcome

/-!
# What a command asks of its host

A host can be watched: it answers as before, and every call is put on record with its answer. On a
watched host a command ends as it does on the host itself, and the record is told by the answers
(`Asks.loadConfig`, `Asks.compile`, `Asks.run`).

* `HostCall`: one call with its answer. `HostCall.IsLook`: it looks at a file or reads it.
* `Asks`: an action, what it is when watched, and the calls it makes. `Asks.pure` and `Asks.bind`
  carry it through a command.
* `loadCalls`, `compileCalls`, `runCalls`: the calls that load a configuration, and those of a
  compile and of a run. Loading and checking only look (`isLook_loadCalls`, `isLook_checkCalls`).
-/

namespace StagedBuild.CommandLine

variable {ω α β : Type}

/-- A call on a host, with its answer. -/
inductive HostCall where
  | isPresent (path : String) (answer : Bool)
  | readText (path : String) (answer : Except IoCause String)
  | makeDirectories (path : String) (answer : Except IoCause Unit)
  | start (invocation : Invocation) (answer : Option ToolOutput)

/-- The call looks at a file or reads it. -/
def HostCall.IsLook : HostCall → Prop
  | .isPresent _ _ | .readText _ _ => True
  | .makeDirectories _ _ | .start _ _ => False

/-- Carries out an action and puts the call that it was on record. -/
def noting (call : α → HostCall) (action : StateM ω α) : StateM (ω × List HostCall) α :=
  fun (world, record) =>
    let (answer, after) := action.run world
    (answer, (after, record ++ [call answer]))

/-- The host, with its calls put on record. -/
def Host.watched (host : Host (StateM ω)) : Host (StateM (ω × List HostCall)) where
  isPresent path := noting (.isPresent path) (host.isPresent path)
  readText path := noting (.readText path) (host.readText path)
  makeDirectories path := noting (.makeDirectories path) (host.makeDirectories path)
  start invocation := noting (.start invocation) (host.start invocation)

/-- Watched, the action ends in the same way, leaves the world the same and makes these calls. -/
def Asks (action : StateM ω α) (watched : StateM (ω × List HostCall) α)
    (calls : ω → List HostCall) : Prop :=
  ∀ world record, watched.run (world, record) =
    ((action.run world).1, ((action.run world).2, record ++ calls world))

/-- The calls that load a configuration. -/
def loadCalls (host : Host (StateM ω)) (path : String) (world : ω) : List HostCall :=
  let looked := (host.isPresent path).run world
  .isPresent path looked.1 ::
    if looked.1 then [.readText path ((host.readText path).run looked.2).1] else []

/-- The calls that look for the first missing file. The files behind it are not looked at. -/
def checkCalls (host : Host (StateM ω)) : List String → ω → List HostCall
  | [], _ => []
  | file :: rest, world =>
    let looked := (host.isPresent file).run world
    .isPresent file looked.1 :: if looked.1 then checkCalls host rest looked.2 else []

/-- The start of the compiler, after the output directory was made or not. -/
def madeCalls (host : Host (StateM ω)) (invocation : Invocation) :
    Except IoCause Unit → ω → List HostCall
  | .error _, _ => []
  | .ok (), world => [.start invocation ((host.start invocation).run world).1]

/-- The calls of a compile after it looked for a missing file: none if there is one. -/
def checkedCalls (host : Host (StateM ω)) (files : List String) (output : String)
    (config : ToolchainConfig) : Option String → ω → List HostCall
  | some _, _ => []
  | none, world =>
    let made := (host.makeDirectories output).run world
    .makeDirectories output made.1 ::
      madeCalls host (config.compileInvocation files output) made.1 made.2

/-- The calls of a compile after loading a configuration: none if it was refused. -/
def configuredCalls (host : Host (StateM ω)) (files : List String) (output : String) :
    Except ConfigFileError ToolchainConfig → ω → List HostCall
  | .error _, _ => []
  | .ok config, world =>
    let missing := (firstMissing host files).run world
    checkCalls host files world ++ checkedCalls host files output config missing.1 missing.2

/-- The calls of a compile. -/
def compileCalls (host : Host (StateM ω)) (files : List String) (output path : String)
    (world : ω) : List HostCall :=
  let loaded := (loadConfig host path).run world
  loadCalls host path world ++ configuredCalls host files output loaded.1 loaded.2

/-- The calls of a run once its configuration is loaded: it looks for the archive, and starts the
runtime if it is there. -/
def archiveCalls (host : Host (StateM ω)) (output : String) (arguments : List String)
    (config : ToolchainConfig) (world : ω) : List HostCall :=
  let archive := ArtifactPath.archive output config.language
  let invocation := config.runInvocation output arguments
  let looked := (host.isPresent archive).run world
  .isPresent archive looked.1 ::
    if looked.1 then [.start invocation ((host.start invocation).run looked.2).1] else []

/-- The calls of a run after loading a configuration: none if it was refused. -/
def loadedCalls (host : Host (StateM ω)) (output : String) (arguments : List String) :
    Except ConfigFileError ToolchainConfig → ω → List HostCall
  | .error _, _ => []
  | .ok config, world => archiveCalls host output arguments config world

/-- The calls of a run. -/
def runCalls (host : Host (StateM ω)) (output path : String) (arguments : List String)
    (world : ω) : List HostCall :=
  let loaded := (loadConfig host path).run world
  loadCalls host path world ++ loadedCalls host output arguments loaded.1 loaded.2

theorem isLook_loadCalls (host : Host (StateM ω)) (path : String) (world : ω) :
    ∀ call ∈ loadCalls host path world, call.IsLook := by
  intro call mem
  rw [loadCalls, List.mem_cons] at mem
  obtain rfl | mem := mem
  · trivial
  · split at mem
    · rw [List.mem_singleton.mp mem]
      trivial
    · cases mem

theorem isLook_checkCalls (host : Host (StateM ω)) (files : List String) (world : ω) :
    ∀ call ∈ checkCalls host files world, call.IsLook := by
  intro call mem
  induction files generalizing world with
  | nil => cases mem
  | cons file rest ih =>
    rw [checkCalls, List.mem_cons] at mem
    obtain rfl | mem := mem
    · trivial
    · split at mem
      · exact ih _ mem
      · cases mem

namespace Asks

theorem pure (answer : α) :
    Asks (Pure.pure answer : StateM ω α) (Pure.pure answer) fun _ => [] := by
  intro world record
  rw [List.append_nil]
  rfl

theorem noting (call : α → HostCall) (action : StateM ω α) :
    Asks action (CommandLine.noting call action) fun world => [call (action.run world).1] :=
  fun _ _ => rfl

/-- One action after another makes the calls of the first, and then those of the second on what
the first left. -/
theorem bind {action : StateM ω α} {watched : StateM (ω × List HostCall) α}
    {next : α → StateM ω β} {watchedNext : α → StateM (ω × List HostCall) β}
    {calls : ω → List HostCall} (first : Asks action watched calls)
    (nextCalls : α → ω → List HostCall)
    (second : ∀ answer, Asks (next answer) (watchedNext answer) (nextCalls answer)) :
    Asks (action >>= next) (watched >>= watchedNext) fun world =>
      calls world ++ nextCalls (action.run world).1 (action.run world).2 := by
  intro world record
  have begun := first world record
  have ended := second (action.run world).1 (action.run world).2 (record ++ calls world)
  rw [List.append_assoc] at ended
  change (watchedNext (watched.run (world, record)).1).run (watched.run (world, record)).2 = _
  rw [begun]
  exact ended

theorem loadConfig (host : Host (StateM ω)) (path : String) :
    Asks (CommandLine.loadConfig host path) (CommandLine.loadConfig host.watched path)
      (loadCalls host path) := by
  apply (noting (.isPresent path) (host.isPresent path)).bind fun present world =>
    if present then [.readText path ((host.readText path).run world).1] else []
  intro present
  cases present with
  | false => exact pure _
  | true => exact (noting (.readText path) (host.readText path)).bind _ fun _ => pure _

theorem firstMissing (host : Host (StateM ω)) (files : List String) :
    Asks (CommandLine.firstMissing host files) (CommandLine.firstMissing host.watched files)
      (checkCalls host files) := by
  induction files with
  | nil => exact pure none
  | cons file rest ih =>
    apply (noting (.isPresent file) (host.isPresent file)).bind fun present world =>
      if present then checkCalls host rest world else []
    intro present
    cases present with
    | false => exact pure _
    | true => exact ih

theorem compile (host : Host (StateM ω)) (log : Log) (files : List String)
    (output path : String) :
    Asks (CommandLine.compile host log files output path)
      (CommandLine.compile host.watched log files output path)
      (compileCalls host files output path) := by
  apply (loadConfig host path).bind (configuredCalls host files output)
  intro loaded
  cases loaded with
  | error refused => exact pure _
  | ok config =>
    let invocation := config.compileInvocation files output
    apply (firstMissing host files).bind (checkedCalls host files output config)
    intro missing
    cases missing with
    | some file => exact pure _
    | none =>
      apply (noting (.makeDirectories output) (host.makeDirectories output)).bind
        (madeCalls host invocation)
      intro made
      cases made with
      | error cause => exact pure _
      | ok _ => exact (noting (.start invocation) (host.start invocation)).bind _ fun _ => pure _

theorem run (host : Host (StateM ω)) (log : Log) (output path : String)
    (arguments : List String) :
    Asks (CommandLine.run host log output path arguments)
      (CommandLine.run host.watched log output path arguments)
      (runCalls host output path arguments) := by
  apply (loadConfig host path).bind (loadedCalls host output arguments)
  intro loaded
  cases loaded with
  | error refused => exact pure _
  | ok config =>
    let archive := ArtifactPath.archive output config.language
    let invocation := config.runInvocation output arguments
    apply (noting (.isPresent archive) (host.isPresent archive)).bind fun present world =>
      if present then [.start invocation ((host.start invocation).run world).1] else []
    intro present
    cases present with
    | false => exact pure _
    | true => exact (noting (.start invocation) (host.start invocation)).bind _ fun _ => pure _

end Asks

end StagedBuild.CommandLine
