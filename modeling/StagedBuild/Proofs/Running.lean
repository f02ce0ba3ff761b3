import StagedBuild.Proofs.Discipline
import StagedBuild.Proofs.Writing

/-!
# Starting the tools

`run` starts the compiler once everything is written, and the runtime only if the compiler ended
with status zero. What comes before the compiler is the chronicle of generation and writing
(`Prepares`). A run ends in three ways (`Gated`): at the first call of the chronicle that fails,
with the compiler's answer, or with the runtime's answer. What the store holds in the end is settled
when the sources are written (`store_run`), before a tool is asked for anything.
-/

namespace StagedBuild.Pipeline

variable {δ τ α : Type}

section

variable (pipeline : Pipeline δ τ)

/-- The line before the program is run. -/
def runLine : Call δ τ :=
  .emit pipeline.log s!"\t- Running {pipeline.bridge.language.displayName}..."

/-- The start of the runtime on the archive, in the output directory. -/
def runtimeStart (outputDir : String) (arguments : List String) : Invocation where
  program := pipeline.bridge.config.runtime
  arguments := ["-jar", pipeline.bridge.language.archiveName] ++ arguments
  workingDir := some outputDir

/-- The pipeline with tools that answer otherwise. -/
def withAnswers (answer : History δ τ → Invocation → Option ToolOutput) : Pipeline δ τ :=
  { pipeline with bridge.toolchain.answer := answer }

/-- What a run does before it starts a tool: a chronicle that takes the inputs through generation
and writing. -/
structure Prepares (inputs : List String) (outputDir : String) (start : History δ τ)
    (told : Chronicle δ τ) : Prop where
  faithful : told.Faithful pipeline start
  ordered : (told.map Entry.place).Pairwise Place.Before
  line : ∀ entry ∈ told, ∀ stage, entry.place = .opening stage →
    entry.call = .emit pipeline.log (stageLine pipeline.bridge.language stage)
  follows : told.Follows fun input answers => inputs[input]?.bind fun path =>
    writeRoute pipeline.bridge.language outputDir (isSingle inputs) path answers
  idle : ∀ call ∈ told.calls, ¬ call.StartsTool

/-- How a run in a session ends: with this result and these calls in all. -/
inductive Gated (inputs : List String) (outputDir : String) (arguments : List String)
    (session : Session (History δ τ)) : Except Failure (Option ToolOutput) → History δ τ → Prop
  /-- Failures end the run, and a call for one of the inputs is the first that fails. -/
  | failed (told : Chronicle δ τ) (failing : Entry δ τ) (input : Nat) (failure : Failure)
    (stops : session.store.stopAtFirstError = true)
    (prepares : pipeline.Prepares inputs outputDir session.world (told ++ [failing]))
    (undisturbed : pipeline.failures session.world told.calls = [])
    (fails : failing.charge? = some (input, failure)) :
    Gated inputs outputDir arguments session (.error failure)
      (session.world ++ told.calls ++ [failing.call])
  /-- The compiler cannot be started, or does not end with status zero. -/
  | compiled (told : Chronicle δ τ) (paths : List String) (answer : Option ToolOutput)
    (prepares : pipeline.Prepares inputs outputDir session.world told)
    (undisturbed : session.store.stopAtFirstError = true →
      pipeline.failures session.world told.calls = [])
    (answers : pipeline.toolAnswer (session.world ++ told.calls ++ [pipeline.compileLine])
      (pipeline.compilerStart outputDir paths) = answer)
    (unsuccessful : answer.bind ToolOutput.status ≠ some 0) :
    Gated inputs outputDir arguments session (.ok answer)
      (session.world ++ told.calls ++
        [pipeline.compileLine, pipeline.start (pipeline.compilerStart outputDir paths)])
  /-- The compiler ends with status zero, so the runtime is started next. -/
  | ran (told : Chronicle δ τ) (paths : List String) (compiled answer : Option ToolOutput)
    (prepares : pipeline.Prepares inputs outputDir session.world told)
    (undisturbed : session.store.stopAtFirstError = true →
      pipeline.failures session.world told.calls = [])
    (compiles : pipeline.toolAnswer (session.world ++ told.calls ++ [pipeline.compileLine])
      (pipeline.compilerStart outputDir paths) = compiled)
    (successful : compiled.bind ToolOutput.status = some 0)
    (answers : pipeline.toolAnswer (session.world ++ told.calls ++
      [pipeline.compileLine, pipeline.start (pipeline.compilerStart outputDir paths),
        pipeline.runLine]) (pipeline.runtimeStart outputDir arguments) = answer) :
    Gated inputs outputDir arguments session (.ok answer)
      (session.world ++ told.calls ++
        [pipeline.compileLine, pipeline.start (pipeline.compilerStart outputDir paths),
          pipeline.runLine, pipeline.start (pipeline.runtimeStart outputDir arguments)])

theorem run_eq (inputs : List String) (outputDir : String) (arguments : List String) :
    pipeline.run inputs outputDir arguments =
      pipeline.writeSources inputs outputDir >>= fun written =>
        pipeline.compileSources outputDir written >>=
          pipeline.runCompiled outputDir arguments := by
  simp only [run, compile_parts, bind_assoc]
  rfl

theorem run_runCompiled (outputDir : String) (arguments : List String)
    {compiled : Option ToolOutput} (succeeded : compiled.bind ToolOutput.status = some 0)
    (session : Session (History δ τ)) :
    (pipeline.runCompiled outputDir arguments compiled).run session =
      (.ok (pipeline.toolAnswer (session.world ++ [pipeline.runLine])
          (pipeline.runtimeStart outputDir arguments)),
        { session with world := session.world ++ [pipeline.runLine] ++
            [pipeline.start (pipeline.runtimeStart outputDir arguments)] }) := by
  obtain ⟨output, rfl, zero⟩ := Option.bind_eq_some_iff.mp succeeded
  have passes : (some output).any ToolOutput.succeeded = true := by
    rw [Option.any_some, ToolOutput.succeeded, zero]
    rfl
  rw [runCompiled, if_pos passes, emit, Step.run_bind_ok (run_call _ _ _)]
  rfl

theorem run_runCompiled_skip (outputDir : String) (arguments : List String)
    {compiled : Option ToolOutput} (unsuccessful : compiled.bind ToolOutput.status ≠ some 0)
    (session : Session (History δ τ)) :
    (pipeline.runCompiled outputDir arguments compiled).run session = (.ok compiled, session) := by
  have stays : ¬ compiled.any ToolOutput.succeeded = true := by
    intro passes
    apply unsuccessful
    obtain ⟨output, rfl, zero⟩ := (Option.any_eq_true _ _).mp passes
    exact eq_of_beq zero
  rw [runCompiled, if_neg stays, Step.run_pure]

end

section

variable {pipeline : Pipeline δ τ}

/-- A governed step that gives a value where failures end the run had no failure. -/
theorem Governed.undisturbed {step : Action δ τ α} (governed : pipeline.Governed step)
    {session after : Session (History δ τ)} {calls : History δ τ} {value : α}
    (run : step.run session = (.ok value, after)) (world : after.world = session.world ++ calls)
    (stops : session.store.stopAtFirstError = true) :
    pipeline.failures session.world calls = [] := by
  obtain ⟨history, errors, warnings, _⟩ := session
  cases stops
  obtain ⟨value', made, runs⟩ := governed history
  rw [(runs errors warnings).2, Prod.mk.injEq] at run
  obtain ⟨given, rfl⟩ := run
  obtain rfl := List.append_cancel_left world
  cases failed : pipeline.failures history made with
  | nil =>
    rw [untilFailure_of_success _ _ failed]
    exact failed
  | cons first rest =>
    rw [failed] at given
    cases given

/-- A failure ends a governed step only where failures end the run. It is that of the last call, and
no call before failed. -/
theorem Governed.fails_last {step : Action δ τ α} (governed : pipeline.Governed step)
    {session after : Session (History δ τ)} {calls : History δ τ} {failure : Failure}
    (run : step.run session = (.error failure, after))
    (world : after.world = session.world ++ calls) :
    session.store.stopAtFirstError = true ∧ ∃ before failing, calls = before ++ [failing] ∧
      pipeline.failures session.world before = [] ∧
      pipeline.failure? (session.world ++ before) failing = some failure := by
  obtain ⟨history, errors, warnings, stop⟩ := session
  obtain ⟨value, made, runs⟩ := governed history
  cases stop with
  | false =>
    rw [(runs errors warnings).1] at run
    cases run
  | true =>
    rw [(runs errors warnings).2, Prod.mk.injEq] at run
    obtain ⟨given, rfl⟩ := run
    obtain rfl := List.append_cancel_left world
    cases failed : pipeline.failures history made with
    | nil =>
      rw [failed] at given
      cases given
    | cons first rest =>
      rw [failed] at given
      cases given
      obtain ⟨before, failing, _, _, cut, success, last⟩ :=
        pipeline.untilFailure_eq_of_failures_eq_cons history failed
      exact ⟨rfl, before, failing, cut, success, last⟩

namespace Itinerary

variable {itinerary : Itinerary δ τ}

/-- A call that fails last is one for an input, since lines do not fail. -/
theorem charge?_of_tell {agenda : List Place} {earlier : Chronicle δ τ} {failing : Entry δ τ}
    {failure : Failure} (told : itinerary.tell [] agenda = earlier ++ [failing])
    (fails : itinerary.pipeline.failure? (itinerary.start ++ earlier.calls) failing.call =
      some failure) :
    ∃ input, failing.charge? = some (input, failure) := by
  obtain ⟨due, replied⟩ := itinerary.regular_tell agenda earlier failing [] told
  obtain ⟨place, call, reply⟩ := failing
  rw [failure?, ← replied] at fails
  cases place with
  | opening stage =>
    cases due
    cases replied
    cases fails
  | visit stage input step =>
    cases reply with
    | ok answer => cases fails
    | error _ =>
      cases fails
      exact ⟨input, rfl⟩

end Itinerary

end

section

variable (pipeline : Pipeline δ τ)

theorem prepares_tell (inputs : List String) (outputDir : String) (start : History δ τ)
    (stop : Bool) :
    pipeline.Prepares inputs outputDir start
      (((Operation.compile inputs outputDir).itinerary pipeline start stop).tell []
        (writePlaces inputs.length)) where
  faithful := Itinerary.faithful_tell _ _
  ordered := Itinerary.pairwise_tell _ (pairwise_writePlaces inputs.length)
  line := fun entry member stage here => Itinerary.line_tell _ member here
  follows := Itinerary.follows_tell _ _
  idle := Itinerary.calls_tell (fun call => ¬ call.StartsTool) (fun _ => id)
    (fun input answers call next => by
      obtain ⟨path, _, leads⟩ := Option.bind_eq_some_iff.mp next
      exact writeRoute_idle leads) _

/-- The calls until the sources are written are those of a chronicle. It ends at its first failure
if failures end the run, and otherwise no failure ends it. -/
theorem writeSources_prepares (inputs : List String) (outputDir : String)
    (session : Session (History δ τ)) :
    ∃ (told : Chronicle δ τ) (result : Except Failure (Batch String)) (store : Store),
      (pipeline.writeSources inputs outputDir).run session =
        (result, ⟨session.world ++ told.calls, store⟩) ∧
      pipeline.Prepares inputs outputDir session.world told ∧
      match result with
      | .ok _ => session.store.stopAtFirstError = true →
          pipeline.failures session.world told.calls = []
      | .error failure => session.store.stopAtFirstError = true ∧
          ∃ (earlier : Chronicle δ τ) (failing : Entry δ τ) (input : Nat),
            told = earlier ++ [failing] ∧ pipeline.failures session.world earlier.calls = [] ∧
            failing.charge? = some (input, failure) := by
  obtain ⟨start, store⟩ := session
  have guides : ((Operation.compile inputs outputDir).itinerary pipeline start
      store.stopAtFirstError).Guides inputs :=
    Itinerary.guides_of_writeRoute rfl rfl fun _ _ => rfl
  have free : ¬ ((Operation.compile inputs outputDir).itinerary pipeline start
      store.stopAtFirstError).Halted [] := fun halted => halted.2 rfl
  obtain ⟨result, store', run, _⟩ :=
    (guides.arrives_writeSources free rfl rfl fun _ _ => rfl).whole store rfl
  have governed := pipeline.governed_writeSources inputs outputDir
  refine ⟨_, result, store', run, pipeline.prepares_tell inputs outputDir start _, ?_⟩
  cases result with
  | ok written => exact governed.undisturbed run rfl
  | error failure =>
    obtain ⟨stops, before, failing, calls, success, fails⟩ := governed.fails_last run rfl
    obtain ⟨earlier, last, told, rfl, single⟩ := List.map_eq_append_iff.mp calls
    obtain ⟨entry, rfl, rfl⟩ := List.map_eq_singleton_iff.mp single
    obtain ⟨input, charged⟩ := Itinerary.charge?_of_tell told fails
    exact ⟨stops, earlier, entry, input, told, success, charged⟩

/-- No tool changes what is recorded. -/
theorem store_run (inputs : List String) (outputDir : String) (arguments : List String)
    (session : Session (History δ τ)) :
    ((pipeline.run inputs outputDir arguments).run session).2.store =
      ((pipeline.writeSources inputs outputDir).run session).2.store := by
  rw [run_eq]
  rcases writing : (pipeline.writeSources inputs outputDir).run session with ⟨result, after⟩
  cases result with
  | error failure => rw [Step.run_bind_error writing]
  | ok written =>
    have quiet := (pipeline.quiet_compileSources outputDir written).bind fun compiled _ =>
      pipeline.quiet_runCompiled outputDir arguments compiled
    obtain ⟨answer, calls, run, _⟩ := quiet after
    rw [Step.run_bind_ok writing, run]

/-- The tools are started one after the other, as far as the compiler's answer lets them. -/
theorem gated_run (inputs : List String) (outputDir : String) (arguments : List String)
    (session : Session (History δ τ)) :
    pipeline.Gated inputs outputDir arguments session
      ((pipeline.run inputs outputDir arguments).run session).1
      ((pipeline.run inputs outputDir arguments).run session).2.world := by
  obtain ⟨told, result, store, writing, prepares, ended⟩ :=
    pipeline.writeSources_prepares inputs outputDir session
  rw [run_eq]
  cases result with
  | error failure =>
    obtain ⟨stops, earlier, failing, input, rfl, undisturbed, fails⟩ := ended
    rw [Step.run_bind_error writing, Chronicle.calls_append, Chronicle.calls_singleton,
      ← List.append_assoc]
    exact .failed earlier failing input failure stops prepares undisturbed fails
  | ok written =>
    rw [Step.run_bind_ok writing, Step.run_bind_ok (pipeline.run_compileSources _ _ _)]
    by_cases succeeded : (pipeline.toolAnswer (session.world ++ told.calls ++
        [pipeline.compileLine]) (pipeline.compilerStart outputDir written.successes)).bind
          ToolOutput.status = some 0
    · rw [run_runCompiled _ _ _ succeeded]
      have ran : pipeline.Gated inputs outputDir arguments session _ _ :=
        .ran told written.successes _ _ prepares ended rfl succeeded rfl
      simpa using ran
    · rw [run_runCompiled_skip _ _ _ succeeded]
      exact .compiled told written.successes _ prepares ended rfl succeeded

/-- A failure ends a run only where failures end runs. It is then the first failure of a call for an
input, it is that of the last call, and no tool was started. Otherwise the run starts the compiler
after everything is written, and then the runtime exactly if the compiler ended with status zero; it
gives the answer of the last tool. Whatever the tools answer, the store is the same in the end. -/
theorem run_gates_runtime (inputs : List String) (outputDir : String) (arguments : List String)
    (session : Session (History δ τ)) :
    let ended := (pipeline.run inputs outputDir arguments).run session
    pipeline.Gated inputs outputDir arguments session ended.1 ended.2.world ∧
      ∀ answer, (((pipeline.withAnswers answer).run inputs outputDir arguments).run
        session).2.store = ended.2.store := by
  dsimp only
  refine ⟨pipeline.gated_run inputs outputDir arguments session, fun answer => ?_⟩
  rw [store_run, store_run]
  rfl

end

end StagedBuild.Pipeline
