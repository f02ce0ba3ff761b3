import StagedBuild.Script.Shell

/-!
# Jobs

Processes that a shell has started together and waits for. A job is kept until somebody has been told
of its end. Of a process that a signal ended something is said when the shell waits for it, except
where a user or a reader that went away is the cause.
-/

namespace StagedBuild.Script

open Process

namespace Job

/-- How the processes of a job ended that have. -/
def endings (world : World) (job : Job) : List Ending :=
  job.processes.filterMap fun number => (world.process number).ending

/-- All processes have ended. -/
def isOver (job : Job) (world : World) : Bool :=
  job.processes.all fun number => (world.process number).ending.isSome

/-- All processes have ended, and the shell has been told. -/
def isKnownOver (job : Job) (world : World) : Bool :=
  job.processes.all fun number => (world.process number).reaped

/-- The status of a job: that of its last process. -/
def status (job : Job) (world : World) : Nat :=
  ((job.endings world).getLast?.map Ending.code).getD 0

/-- What is said of the processes of a job that a signal has ended since the shell was told the
last time. -/
def news (job : Job) (world : World) : String :=
  let lines := job.processes.filterMap fun number =>
    let process := world.process number
    match process.ending with
    | some (.signal signal) =>
      if process.reaped || signal = 2 || signal = 13 then none
      else some (Signal.description signal ++ "\n")
    | _ => none
  String.join lines

/-- The state of a job as it is listed. -/
def state (job : Job) (world : World) : String :=
  if !job.isOver world then "Running"
  else match (job.endings world).getLast? with
    | some (.signal signal) => Signal.description signal
    | some (.status status) => if status = 0 then "Done" else "Done(" ++ toString status ++ ")"
    | none => "Running"

end Job

namespace Run

/-- Drops a job that somebody has waited for, if its number is needed: the smallest number that a
new job can have, and the other jobs. -/
def freeNumber (world : World) (jobs : List Job) : (count : Nat) → (number : Nat) → Nat × List Job
  | 0, number => (number, jobs)
  | count + 1, number =>
    match jobs.find? (·.number == number) with
    | none => (number, jobs)
    | some job =>
      if job.waited && job.isKnownOver world then (number, jobs.filter (·.number != number))
      else freeNumber world jobs count (number + 1)

/-- The number of a new job. -/
def newJobNumber : Run Nat := do
  let shell ← get
  let (number, jobs) ← (Act.view fun world =>
    freeNumber world shell.jobs shell.jobs.length 1 : Act _)
  set { shell with jobs }
  return number

/-- Waits for the processes of a job in the foreground; their status. -/
def waitForJob (job : Job) : Run Nat := do
  Act.await job.isOver
  let news ← (Act.view job.news : Act String)
  let status ← (Act.view job.status : Act Nat)
  Act.change (·.reap)
  if !news.isEmpty then writeError news
  return status

/-- Starts a process that is waited for; its status. -/
def inChild (child : Run Unit) : Run Nat := do
  let number ← newJobNumber
  let process ← fork child
  waitForJob ⟨number, [process], false⟩

/-- Adds a job in the background. -/
def addJob (number : Nat) (processes : List Nat) : Run Unit :=
  modify fun shell => { shell with
    jobs := ⟨number, processes, false⟩ :: shell.jobs, lastStarted := processes.getLast? }

/-- The job that a text denotes behind a percent sign. -/
def findJob (text : String) : Run Job := do
  let jobs := (← get).jobs
  match text.toList.tail with
  | [] | ['%'] | ['+'] => match jobs.head? with
    | some job => return job
    | none => fail "No current job"
  | ['-'] => match jobs.tail.head? with
    | some job => return job
    | none => fail "No previous job"
  | name =>
    match (String.ofList name).toNat?.bind fun number => jobs.find? (·.number == number) with
    | some job => return job
    | none => fail ("No such job: " ++ text)

/-- How long a signal may take, in billionths of a second. -/
def signalTime : Nat := 200000

/-- Waits until the world is ready; false if a signal that the shell handles comes before. -/
def waitUntil (isReady : World → Bool) : Act Bool := do
  Act.await fun world => isReady world || !world.actor.pending.isEmpty
  if ← Act.view isReady then return true
  Act.sleep signalTime
  Act.view isReady

end Run

end StagedBuild.Script
