import StagedBuild.Proofs.Accounting
import StagedBuild.Proofs.Reference

/-!
# Writing and compiling the sources

What `compile` does once the sources are generated. The sources to write are those of the full
slots, in the order of the inputs (`artifacts`); the ones that can be written go to the compiler
(`written`), and the failures of the others are kept or end the run, as the policy says.

The run that keeps failures is followed slot by slot (`run_writeSlots`). The run that stops is the
same run cut at its first failure (`Governed.run_stop`). `compile_writes_survivors` has both.
-/

namespace StagedBuild.Pipeline

variable {δ τ α : Type}

/-- The call writes a file. -/
def Call.Writes : Call δ τ → Prop
  | .write .. => True
  | _ => False

/-- The call starts a tool. -/
def Call.StartsTool : Call δ τ → Prop
  | .invoke .. => True
  | _ => False

/-- A generated source and where it goes. -/
structure Artifact where
  path : String
  source : String
  deriving DecidableEq, Repr

/-- The call that writes the source. -/
def Artifact.write (artifact : Artifact) : Call δ τ :=
  .write artifact.path artifact.source

section

variable (pipeline : Pipeline δ τ)

/-- The sources to write: for each input whose slot is full, in order, the source in that slot. -/
def artifacts (inputs : List String) (outputDir : String) (sources : Batch String) :
    List Artifact :=
  (List.range inputs.length).filterMap fun index =>
    inputs[index]?.bind fun input => (sources.get? index).map fun source =>
      ⟨ArtifactPath.source input outputDir pipeline.bridge.language, source⟩

/-- The sources that can be written, when all are written in order after a history. -/
def written (history : History δ τ) : List Artifact → List Artifact
  | [] => []
  | artifact :: later =>
    match pipeline.failure? history artifact.write with
    | none => artifact :: written (history ++ [artifact.write]) later
    | some _ => written (history ++ [artifact.write]) later

/-- The line before the compiler is started. -/
def compileLine : Call δ τ :=
  .emit pipeline.log s!"\t- Compiling {pipeline.bridge.language.displayName}..."

/-- The start of the compiler on some files, in no directory of its own. -/
def compilerStart (outputDir : String) (paths : List String) : Invocation where
  program := pipeline.bridge.config.compiler
  arguments :=
    ["-include-runtime", "-d", ArtifactPath.archive outputDir pipeline.bridge.language] ++ paths
  workingDir := none

/-- Starting a tool is a call. -/
def start (invocation : Invocation) : Call δ τ :=
  .invoke pipeline.bridge.toolchain.name invocation

/-- What a tool that is started after a history answers. -/
def toolAnswer (history : History δ τ) (invocation : Invocation) : Option ToolOutput :=
  pipeline.bridge.toolchain.answer history invocation

/-- What `compile` does in a session, when generation gives these sources and leaves the session
`generated`. -/
structure CompilesSurvivors (inputs : List String) (outputDir : String)
    (session generated : Session (History δ τ)) (sources : Batch String) : Prop where
  /-- Every input has its slot. -/
  size : sources.size = inputs.length
  /-- Until now nothing was written and no tool was started. -/
  generating : ∃ calls, generated.world = session.world ++ calls ∧
    ∀ call ∈ calls, ¬ call.Writes ∧ ¬ call.StartsTool
  /-- Failures are kept: everything is written, and what could be written is compiled. -/
  keeps : session.store.stopAtFirstError = false →
    let artifacts := pipeline.artifacts inputs outputDir sources
    let writes := artifacts.map Artifact.write
    let compiler := pipeline.compilerStart outputDir
      ((pipeline.written generated.world artifacts).map Artifact.path)
    (pipeline.compile inputs outputDir).run session =
      (.ok (pipeline.toolAnswer (generated.world ++ writes ++ [pipeline.compileLine]) compiler),
        ⟨generated.world ++ writes ++ [pipeline.compileLine, pipeline.start compiler],
          { generated.store with
            errors := generated.store.errors ++ pipeline.failures generated.world writes }⟩)
  /-- A failure ends the run, and there is none: everything is written and compiled. -/
  proceeds : session.store.stopAtFirstError = true →
    let artifacts := pipeline.artifacts inputs outputDir sources
    let writes := artifacts.map Artifact.write
    let compiler := pipeline.compilerStart outputDir (artifacts.map Artifact.path)
    pipeline.failures generated.world writes = [] →
      (pipeline.compile inputs outputDir).run session =
        (.ok (pipeline.toolAnswer (generated.world ++ writes ++ [pipeline.compileLine]) compiler),
          ⟨generated.world ++ writes ++ [pipeline.compileLine, pipeline.start compiler],
            generated.store⟩)
  /-- The first failure ends the run: it is given back, and it was the last call. -/
  stops : session.store.stopAtFirstError = true →
    let artifacts := pipeline.artifacts inputs outputDir sources
    ∀ first rest, pipeline.failures generated.world (artifacts.map Artifact.write) =
        first :: rest →
      ∃ before failing later, artifacts = before ++ failing :: later ∧
        pipeline.failures generated.world (before.map Artifact.write) = [] ∧
        pipeline.failure? (generated.world ++ before.map Artifact.write) failing.write =
          some first ∧
        (pipeline.compile inputs outputDir).run session =
          (.error first, ⟨generated.world ++ before.map Artifact.write ++ [failing.write],
            generated.store⟩)

/-- Writes the sources of a batch and compiles what was written. -/
def compileBatch (inputs : List String) (outputDir : String) (sources : Batch String) :
    Action δ τ (Option ToolOutput) := do
  let written ← pipeline.writeStage inputs outputDir sources
  pipeline.compileSources outputDir written

theorem compile_eq (inputs : List String) (outputDir : String) :
    pipeline.compile inputs outputDir =
      pipeline.generate inputs >>= pipeline.compileBatch inputs outputDir := by
  rw [compile_parts, writeSources, bind_assoc]
  rfl

theorem governed_compileBatch (inputs : List String) (outputDir : String)
    (sources : Batch String) : pipeline.Governed (pipeline.compileBatch inputs outputDir sources) :=
  (Governed.tryMap (fun _ => pipeline.prompt_writeInput outputDir _ _) _).bind fun _ =>
    (pipeline.governed_emit _).bind fun _ => pipeline.governed_invoke _

theorem run_compileSources (outputDir : String) (batch : Batch String)
    (session : Session (History δ τ)) :
    (pipeline.compileSources outputDir batch).run session =
      (.ok (pipeline.toolAnswer (session.world ++ [pipeline.compileLine])
          (pipeline.compilerStart outputDir batch.successes)),
        { session with world := session.world ++ [pipeline.compileLine,
            pipeline.start (pipeline.compilerStart outputDir batch.successes)] }) := by
  rw [compileSources, emit, Step.run_bind_ok (run_call _ _ _), invoke, run_call, List.append_assoc]
  rfl

theorem run_writeInput (outputDir input source : String) (history : History δ τ) (store : Store) :
    let path := ArtifactPath.source input outputDir pipeline.bridge.language
    (pipeline.writeInput outputDir input source).run ⟨history, store⟩ =
      ((pipeline.fileSystem.write history path source).map fun _ => path,
        ⟨history ++ [.write path source], store⟩) := by
  dsimp only
  rw [writeInput, writeSource, Step.run_bind, run_tryCall]
  cases pipeline.fileSystem.write history _ source <;> rfl

/-- The source in a slot and where it goes. -/
def slotArtifact (outputDir : String) : String × String → Artifact
  | (input, source) => ⟨ArtifactPath.source input outputDir pipeline.bridge.language, source⟩

/-- Pairing inputs with slots loses none, as long as there are as many. -/
theorem slotArtifact_withInputs {inputs : List String} {sources : Batch String}
    (size : sources.size = inputs.length) (outputDir : String) :
    ((sources.withInputs inputs).slots.filterMap id).map (pipeline.slotArtifact outputDir) =
      pipeline.artifacts inputs outputDir sources := by
  have slots : (sources.withInputs inputs).slots = (List.range inputs.length).map fun index =>
      inputs[index]?.bind fun input => (sources.get? index).map fun source => (input, source) := by
    refine List.ext_getElem? fun index => ?_
    rw [Batch.withInputs, List.getElem?_zipWith, List.getElem?_map]
    by_cases inside : index < inputs.length
    · have slot : index < sources.slots.length := by
        rw [← size] at inside
        exact inside
      simp [inside, slot, Batch.get?]
    · have outside : inputs.length ≤ index := Nat.le_of_not_lt inside
      have beyond : (List.range inputs.length)[index]? = none :=
        List.getElem?_eq_none (by simpa using outside)
      rw [List.getElem?_eq_none outside, beyond]
      rfl
  rw [slots, List.filterMap_map, List.map_filterMap, artifacts]
  refine List.filterMap_congr fun index _ => ?_
  rw [Function.comp_apply, id_eq]
  cases inputs[index]? with
  | none => rfl
  | some input => cases sources.get? index <;> rfl

/-- Writing while failures are kept, slot by slot. -/
theorem run_writeSlots (outputDir : String) (slots : List (Option (String × String)))
    (history : History δ τ) (errors : List Failure) (warnings : List Diagnostic) :
    let artifacts := (slots.filterMap id).map (pipeline.slotArtifact outputDir)
    let writes := artifacts.map Artifact.write
    ∃ results : List (Option String),
      (slots.mapM (Batch.trySlot fun pair =>
          pipeline.writeInput outputDir pair.1 pair.2)).run ⟨history, ⟨errors, warnings, false⟩⟩ =
        (.ok results, ⟨history ++ writes,
          ⟨errors ++ pipeline.failures history writes, warnings, false⟩⟩) ∧
      results.filterMap id = (pipeline.written history artifacts).map Artifact.path := by
  induction slots generalizing history errors with
  | nil => exact ⟨[], by simp [failures], rfl⟩
  | cons slot slots ih =>
    dsimp only at ih ⊢
    rw [List.mapM_cons]
    cases slot with
    | none =>
      obtain ⟨results, run, paths⟩ := ih history errors
      refine ⟨none :: results, ?_, paths⟩
      rw [Batch.trySlot, pure_bind, Step.run_bind_ok run]
      rfl
    | some pair =>
      obtain ⟨input, source⟩ := pair
      have writing := pipeline.run_writeInput outputDir input source history
        ⟨errors, warnings, false⟩
      dsimp only at writing
      simp only [List.filterMap_cons, id_eq, List.map_cons, failures, written, Artifact.write,
        slotArtifact, failure?, reply]
      cases answered : pipeline.fileSystem.write history
          (ArtifactPath.source input outputDir pipeline.bridge.language) source with
      | ok done =>
        rw [answered] at writing
        obtain ⟨results, run, paths⟩ := ih _ errors
        refine ⟨some _ :: results, ?_, congrArg (List.cons _) paths⟩
        rw [Batch.trySlot, Step.run_bind_ok (Step.run_attempt_of_ok writing),
          Step.run_bind_ok run]
        simp [Except.map]
      | error failure =>
        rw [answered] at writing
        obtain ⟨results, run, paths⟩ := ih _ (errors ++ [failure])
        refine ⟨none :: results, ?_, paths⟩
        rw [Batch.trySlot, Step.run_bind_ok (Step.run_attempt_of_keep writing rfl),
          Step.run_bind_ok run]
        simp [Except.map]

/-- The whole of writing and compiling while failures are kept. -/
theorem run_compileBatch_keep {inputs : List String} {sources : Batch String}
    (size : sources.size = inputs.length) (outputDir : String) (history : History δ τ)
    (errors : List Failure) (warnings : List Diagnostic) :
    let artifacts := pipeline.artifacts inputs outputDir sources
    let writes := artifacts.map Artifact.write
    let compiler := pipeline.compilerStart outputDir
      ((pipeline.written history artifacts).map Artifact.path)
    (pipeline.compileBatch inputs outputDir sources).run ⟨history, ⟨errors, warnings, false⟩⟩ =
      (.ok (pipeline.toolAnswer (history ++ writes ++ [pipeline.compileLine]) compiler),
        ⟨history ++ writes ++ [pipeline.compileLine, pipeline.start compiler],
          ⟨errors ++ pipeline.failures history writes, warnings, false⟩⟩) := by
  have slots := pipeline.run_writeSlots outputDir (sources.withInputs inputs).slots history errors
    warnings
  dsimp only at slots ⊢
  rw [pipeline.slotArtifact_withInputs size] at slots
  obtain ⟨results, run, paths⟩ := slots
  have writing : (pipeline.writeStage inputs outputDir sources).run
      ⟨history, ⟨errors, warnings, false⟩⟩ = _ := Step.run_bind_ok run
  rw [compileBatch, Step.run_bind_ok writing, run_compileSources, Batch.successes, paths]

end

variable {pipeline : Pipeline δ τ}

/-- The run that stops makes the calls of the run that keeps failures, up to the first failure. -/
theorem Governed.run_stop {step : Action δ τ α} (governed : pipeline.Governed step)
    {history calls : History δ τ} {errors : List Failure} {noted : List Diagnostic} {value : α}
    {after : Session (History δ τ)}
    (kept : step.run ⟨history, ⟨errors, noted, false⟩⟩ = (.ok value, after))
    (made : after.world = history ++ calls) :
    step.run ⟨history, ⟨errors, noted, true⟩⟩ =
      (stopped value (pipeline.failures history calls),
        ⟨history ++ pipeline.untilFailure history calls, ⟨errors,
          noted ++ pipeline.warnings history (pipeline.untilFailure history calls), true⟩⟩) := by
  obtain ⟨value', calls', runs⟩ := governed history
  obtain ⟨keep, stop⟩ := runs errors noted
  rw [kept, Prod.mk.injEq, Except.ok.injEq] at keep
  obtain ⟨rfl, rfl⟩ := keep
  obtain rfl := List.append_cancel_left made
  exact stop

/-- Writing records no warnings. -/
theorem warnings_writes (history : History δ τ) (artifacts : List Artifact) :
    pipeline.warnings history (artifacts.map Artifact.write) = [] := by
  induction artifacts generalizing history with
  | nil => rfl
  | cons artifact artifacts ih =>
    rw [List.map_cons, warnings, ih]
    rfl

/-- What never fails is written as a whole. -/
theorem written_of_success {history : History δ τ} {artifacts : List Artifact}
    (success : pipeline.failures history (artifacts.map Artifact.write) = []) :
    pipeline.written history artifacts = artifacts := by
  induction artifacts generalizing history with
  | nil => rfl
  | cons artifact artifacts ih =>
    rw [List.map_cons, failures, List.append_eq_nil_iff] at success
    obtain ⟨first, later⟩ := success
    have fine : pipeline.failure? history artifact.write = none := by simpa using first
    rw [written, fine, ih later]

/-- A list of calls cut behind its first failure, artifact by artifact. -/
theorem untilFailure_writes {history : History δ τ} {artifacts : List Artifact} {first : Failure}
    {rest : List Failure}
    (failed : pipeline.failures history (artifacts.map Artifact.write) = first :: rest) :
    ∃ before failing later, artifacts = before ++ failing :: later ∧
      pipeline.untilFailure history (artifacts.map Artifact.write) =
        (before ++ [failing]).map Artifact.write ∧
      pipeline.failures history (before.map Artifact.write) = [] ∧
      pipeline.failure? (history ++ before.map Artifact.write) failing.write = some first := by
  obtain ⟨earlier, call, more, split, cut, success, last⟩ :=
    pipeline.untilFailure_eq_of_failures_eq_cons history failed
  obtain ⟨before, tail, rfl, rfl, parts⟩ := List.map_eq_append_iff.mp split
  obtain ⟨failing, later, rfl, rfl, _⟩ := List.map_eq_cons_iff.mp parts
  exact ⟨before, failing, later, rfl, by rw [cut, List.map_append]; rfl, success, last⟩

/-- Lines and tools do not fail. -/
theorem failures_compiler (history : History δ τ) (invocation : Invocation) :
    pipeline.failures history [pipeline.compileLine, pipeline.start invocation] = [] := rfl

theorem warnings_compiler (history : History δ τ) (invocation : Invocation) :
    pipeline.warnings history [pipeline.compileLine, pipeline.start invocation] = [] := rfl

/-- Writing and compiling when a failure ends the run, and there is none. -/
theorem run_compileBatch_of_success {inputs : List String} {sources : Batch String}
    (size : sources.size = inputs.length) (outputDir : String) {history : History δ τ}
    (success : pipeline.failures history
      ((pipeline.artifacts inputs outputDir sources).map Artifact.write) = []) (store : Store) :
    let artifacts := pipeline.artifacts inputs outputDir sources
    let writes := artifacts.map Artifact.write
    let compiler := pipeline.compilerStart outputDir (artifacts.map Artifact.path)
    (pipeline.compileBatch inputs outputDir sources).run ⟨history, store⟩ =
      (.ok (pipeline.toolAnswer (history ++ writes ++ [pipeline.compileLine]) compiler),
        ⟨history ++ writes ++ [pipeline.compileLine, pipeline.start compiler], store⟩) := by
  obtain ⟨errors, noted, stop⟩ := store
  have kept := pipeline.run_compileBatch_keep size outputDir history errors noted
  dsimp only at kept ⊢
  rw [written_of_success success, success, List.append_nil] at kept
  cases stop with
  | false => exact kept
  | true =>
    have halted := (pipeline.governed_compileBatch inputs outputDir sources).run_stop kept
      (List.append_assoc _ _ _)
    have fine : pipeline.failures history
        ((pipeline.artifacts inputs outputDir sources).map Artifact.write ++
          [pipeline.compileLine, pipeline.start (pipeline.compilerStart outputDir
            ((pipeline.artifacts inputs outputDir sources).map Artifact.path))]) = [] := by
      rw [failures_append, success, failures_compiler, List.append_nil]
    rw [halted, untilFailure_of_success _ _ fine, fine, warnings_append, warnings_writes,
      warnings_compiler, List.append_nil, List.append_nil, ← List.append_assoc]
    rfl

/-- Writing when a failure ends the run, and there is one. -/
theorem run_compileBatch_of_failure {inputs : List String} {sources : Batch String}
    (size : sources.size = inputs.length) (outputDir : String) {history : History δ τ}
    {first : Failure} {rest : List Failure}
    (failed : pipeline.failures history
      ((pipeline.artifacts inputs outputDir sources).map Artifact.write) = first :: rest)
    {store : Store} (stop : store.stopAtFirstError = true) :
    ∃ before failing later, pipeline.artifacts inputs outputDir sources =
        before ++ failing :: later ∧
      pipeline.failures history (before.map Artifact.write) = [] ∧
      pipeline.failure? (history ++ before.map Artifact.write) failing.write = some first ∧
      (pipeline.compileBatch inputs outputDir sources).run ⟨history, store⟩ =
        (.error first, ⟨history ++ before.map Artifact.write ++ [failing.write], store⟩) := by
  obtain ⟨errors, noted, policy⟩ := store
  cases stop
  have kept := pipeline.run_compileBatch_keep size outputDir history errors noted
  have halted := (pipeline.governed_compileBatch inputs outputDir sources).run_stop kept
    (List.append_assoc _ _ _)
  obtain ⟨before, failing, later, split, cut, success, last⟩ := untilFailure_writes failed
  refine ⟨before, failing, later, split, success, last, ?_⟩
  rw [halted, failures_append, failed, untilFailure_append_of_failure _ _ (by simp [failed]), cut,
    warnings_writes, List.append_nil, List.map_append, ← List.append_assoc history]
  rfl

/-- What generation asks for is neither a write nor a tool. -/
theorem inputRoute_generates {single : Bool} {path : String} {answers : List (Reply δ τ)}
    {call : Call δ τ} (leads : inputRoute single path answers = some call) :
    ¬ call.Writes ∧ ¬ call.StartsTool := by
  unfold inputRoute at leads
  split at leads
  all_goals cases leads
  all_goals exact ⟨id, id⟩

/-- What generation and writing ask for is no tool. -/
theorem writeRoute_idle {language : Target} {outputDir : String} {single : Bool} {path : String}
    {answers : List (Reply δ τ)} {call : Call δ τ}
    (leads : writeRoute language outputDir single path answers = some call) :
    ¬ call.StartsTool := by
  unfold writeRoute at leads
  split at leads
  · cases leads
    exact id
  · exact (inputRoute_generates leads).2

namespace Itinerary

variable {itinerary : Itinerary δ τ}

/-- What holds of the lines and of every call that a route leads to holds of all calls. -/
theorem calls_tell (allowed : Call δ τ → Prop)
    (lines : ∀ line, allowed (.emit itinerary.pipeline.log line))
    (leads : ∀ input answers call, itinerary.route input answers = some call → allowed call)
    (agenda : List Place) : ∀ call ∈ (itinerary.tell [] agenda).calls, allowed call := by
  intro call called
  obtain ⟨⟨place, call, reply⟩, member, rfl⟩ := List.mem_map.mp called
  obtain ⟨earlier, due, _⟩ := itinerary.due_of_mem_tell member
  cases place with
  | opening stage =>
    cases due
    exact lines _
  | visit stage input step => exact leads input _ _ (itinerary.due_visit due).2

/-- A whole run makes allowed calls only, and leaves the policy as it is. -/
theorem Arrives.allows {agenda : List Place} {work : Action δ τ α} {holds : α → Prop}
    (arrives : itinerary.Arrives [] agenda work holds) (allowed : Call δ τ → Prop)
    (lines : ∀ line, allowed (.emit itinerary.pipeline.log line))
    (leads : ∀ input answers call, itinerary.route input answers = some call → allowed call)
    (store : Store) (stop : store.stopAtFirstError = itinerary.stop) :
    ∃ result calls store', work.run ⟨itinerary.start, store⟩ =
        (result, ⟨itinerary.start ++ calls, store'⟩) ∧
      (∀ call ∈ calls, allowed call) ∧ store'.stopAtFirstError = itinerary.stop ∧
      ∀ value, result = .ok value → holds value := by
  obtain ⟨result, store', run, stop', final⟩ := arrives store stop
  rw [show Chronicle.calls ([] : Chronicle δ τ) = [] from rfl, List.append_nil] at run
  refine ⟨result, _, store', run, calls_tell allowed lines leads agenda, stop', ?_⟩
  rintro value rfl
  exact final.2

end Itinerary

/-- Generation arrives where the slots of the inputs stand at their last step. -/
theorem generate_arrives (pipeline : Pipeline δ τ) (inputs : List String) (start : History δ τ)
    (stop : Bool) :
    let itinerary := (Operation.generate inputs).itinerary pipeline start stop
    itinerary.Guides inputs ∧
      itinerary.Arrives [] (generatePlaces inputs.length) (pipeline.generate inputs)
        (itinerary.Aligned (itinerary.tell [] (generatePlaces inputs.length)) 7
          (Itinerary.Last inputs .text) inputs.length) := by
  have guides : ((Operation.generate inputs).itinerary pipeline start stop).Guides inputs :=
    Itinerary.guides_of_inputRoute rfl rfl fun _ _ => rfl
  exact ⟨guides, guides.arrives_generate (fun halted => halted.2 rfl) rfl rfl⟩

/-- Generation gives a slot to every input, leaves the policy as it is, writes nothing and starts
no tool. -/
theorem generate_before_writing {inputs : List String} {session generated : Session (History δ τ)}
    {sources : Batch String}
    (generates : (pipeline.generate inputs).run session = (.ok sources, generated)) :
    sources.size = inputs.length ∧
      generated.store.stopAtFirstError = session.store.stopAtFirstError ∧
      ∃ calls, generated.world = session.world ++ calls ∧
        ∀ call ∈ calls, ¬ call.Writes ∧ ¬ call.StartsTool := by
  obtain ⟨start, store⟩ := session
  obtain ⟨_, arrives⟩ := generate_arrives pipeline inputs start store.stopAtFirstError
  obtain ⟨result, calls, store', run, quiet, stop, aligned⟩ :=
    arrives.allows (fun call => ¬ call.Writes ∧ ¬ call.StartsTool) (fun _ => ⟨id, id⟩)
      (fun input answers call next => by
        obtain ⟨path, _, leads⟩ := Option.bind_eq_some_iff.mp next
        exact inputRoute_generates leads) store rfl
  have same := run.symm.trans generates
  rw [Prod.mk.injEq] at same
  obtain ⟨given, rfl⟩ := same
  exact ⟨(aligned sources given).1, stop, calls, rfl, quiet⟩

/-- Once sources are generated, those of the full slots are written in the order of the inputs, each
under the name of its own input. If failures are kept, the compiler is started once, on the files
that could be written. If a failure ends the run, it does so at the first write that fails, before
the compiler is started. -/
theorem compile_writes_survivors (pipeline : Pipeline δ τ) (inputs : List String)
    (outputDir : String) {session generated : Session (History δ τ)} {sources : Batch String}
    (generates : (pipeline.generate inputs).run session = (.ok sources, generated)) :
    pipeline.CompilesSurvivors inputs outputDir session generated sources := by
  obtain ⟨size, policy, generating⟩ := generate_before_writing generates
  have compiles : (pipeline.compile inputs outputDir).run session =
      (pipeline.compileBatch inputs outputDir sources).run generated := by
    rw [compile_eq, Step.run_bind_ok generates]
  obtain ⟨world, store⟩ := generated
  refine
    { size, generating
      keeps := fun keep => ?_
      proceeds := fun _ => ?_
      stops := fun stop => ?_ }
  · obtain ⟨errors, warnings, stop⟩ := store
    obtain rfl : stop = false := policy.trans keep
    rw [compiles]
    exact pipeline.run_compileBatch_keep size outputDir world errors warnings
  · rw [compiles]
    exact fun success => run_compileBatch_of_success size outputDir success store
  · rw [compiles]
    exact fun first rest failed =>
      run_compileBatch_of_failure size outputDir failed (policy.trans stop)

/-- A file system that refuses one path. -/
def lockedPipeline : Pipeline String String :=
  { textPipeline with
    fileSystem.write := fun _ path _ =>
      if path = "out/b.kt" then .error (.libraryRefresh .notText ⟨"sample", 3, "write"⟩)
      else .ok () }

/-- One source is missing and one cannot be written; the other two are compiled. -/
theorem compile_writes_survivors_locked :
    ∃ sources generated, (lockedPipeline.generate ["d/a.x", "mute", "b", "c"]).run
        ⟨[], Store.empty false⟩ = (.ok sources, generated) ∧
      lockedPipeline.CompilesSurvivors ["d/a.x", "mute", "b", "c"] "out" ⟨[], Store.empty false⟩
        generated sources ∧
      lockedPipeline.artifacts ["d/a.x", "mute", "b", "c"] "out" sources =
        [⟨"out/a.kt", "d/a.x"⟩, ⟨"out/b.kt", "b"⟩, ⟨"out/c.kt", "c"⟩] ∧
      (lockedPipeline.written generated.world
        (lockedPipeline.artifacts ["d/a.x", "mute", "b", "c"] "out" sources)).map Artifact.path =
          ["out/a.kt", "out/c.kt"] := by
  have steady : lockedPipeline.Steady := by constructor <;> intros <;> rfl
  obtain ⟨after, run⟩ :=
    lockedPipeline.generate_slots steady ["d/a.x", "mute", "b", "c"] [] [] []
  have artifacts : lockedPipeline.artifacts ["d/a.x", "mute", "b", "c"] "out"
      ⟨[some "d/a.x", none, some "b", some "c"]⟩ =
        [⟨"out/a.kt", "d/a.x"⟩, ⟨"out/b.kt", "b"⟩, ⟨"out/c.kt", "c"⟩] := by decide
  refine ⟨_, _, run, compile_writes_survivors lockedPipeline _ _ run, artifacts, ?_⟩
  exact (congrArg (fun due => (lockedPipeline.written after due).map Artifact.path) artifacts).trans
    rfl

end StagedBuild.Pipeline
