import StagedBuild.Proofs.Reply
import StagedBuild.Proofs.WriteLoop

/-!
# The parts that a run goes by

A pipeline works with a file system, a runner of tools, the tools themselves and a log. The calls
of a run show which ones: each goes by the parts that the pipeline has and by what they answered
before (`Warrants`), and an operation that ends with the output of a tool gives what the
pipeline's own runner answered last (`employs_perform`).

* `Employs`: from a history on, a step makes such calls only, and something holds of its value.
* `Employs.bind`, `Employs.attempt` and `Employs.tryMap` carry this through the stages.
-/

namespace StagedBuild.Pipeline

variable {δ τ α β : Type} (pipeline : Pipeline δ τ)

/-- The file system took a text at the path. -/
def Took (history : History δ τ) (path : String) : Prop :=
  ∃ earlier source later, history = earlier ++ .write path source :: later ∧
    pipeline.fileSystem.write earlier path source = .ok ()

/-- The last call started a tool, and this is what the runner answered. -/
def Answered (history : History δ τ) (answer : Option ToolOutput) : Prop :=
  ∃ earlier made, history = earlier ++ [.invoke pipeline.bridge.toolchain.name made] ∧
    pipeline.bridge.toolchain.answer earlier made = answer

/-- The compiler is started on files that the file system took, or the runtime is started because
the compiler succeeded. -/
def Orders (history : History δ τ) (made : Invocation) : Prop :=
  (∃ paths outputDir, made = pipeline.bridge.config.compileInvocation paths outputDir ∧
    ∀ path ∈ paths, pipeline.Took history path) ∨
  ∃ outputDir arguments, made = pipeline.bridge.config.runInvocation outputDir arguments ∧
    ∃ earlier line output, history = earlier ++ [.emit pipeline.log line] ∧
      pipeline.Answered earlier (some output) ∧ output.succeeded = true

/-- The call goes by the parts of the pipeline: a dump is decoded as the file system gave it, a
source gets a name for the language, a tool is started by the runner as the configuration says, and
a line goes to the log. The other calls show none of the parts. -/
def Warrants (history : History δ τ) : Call δ τ → Prop
  | .decode dump => ∃ earlier path, history = earlier ++ [.read path] ∧
      pipeline.fileSystem.read earlier path = .ok dump
  | .write path _ => ∃ input outputDir,
      path = ArtifactPath.source input outputDir pipeline.bridge.config.language
  | .invoke runner made => runner = pipeline.bridge.toolchain.name ∧ pipeline.Orders history made
  | .emit log _ => log = pipeline.log
  | .read _ | .translate .. | .refresh | .runRound .. | .generate _ => True

/-- Each call goes by the parts, after a history and the calls before it. -/
def Warranted (history : History δ τ) : List (Call δ τ) → Prop
  | [] => True
  | call :: calls => pipeline.Warrants history call ∧ Warranted (history ++ [call]) calls

/-- From a history on, all calls of the step go by the parts of the pipeline, whatever the store
holds. If the step gives a value, something holds of it after these calls. -/
def Employs (history : History δ τ) (step : Action δ τ α) (holds : α → History δ τ → Prop) :
    Prop :=
  ∀ store, ∃ result calls store',
    step.run ⟨history, store⟩ = (result, ⟨history ++ calls, store'⟩) ∧
    pipeline.Warranted history calls ∧
    ∀ value, result = .ok value → holds value (history ++ calls)

theorem warranted_append (history : History δ τ) (calls more : List (Call δ τ)) :
    pipeline.Warranted history (calls ++ more) ↔
      pipeline.Warranted history calls ∧ pipeline.Warranted (history ++ calls) more := by
  induction calls generalizing history with
  | nil => simp [Warranted]
  | cons call calls ih => simp [Warranted, ih, and_assoc]

variable {pipeline} {history : History δ τ}

theorem Took.append {path : String} (took : pipeline.Took history path) (more : History δ τ) :
    pipeline.Took (history ++ more) path := by
  obtain ⟨earlier, source, later, rfl, written⟩ := took
  exact ⟨earlier, source, later ++ more, by simp, written⟩

theorem Employs.imp {step : Action δ τ α} {holds holds' : α → History δ τ → Prop}
    (employs : pipeline.Employs history step holds)
    (weaker : ∀ value after, holds value after → holds' value after) :
    pipeline.Employs history step holds' := by
  intro store
  obtain ⟨result, calls, store', run, warranted, held⟩ := employs store
  exact ⟨result, calls, store', run, warranted, fun value gave => weaker _ _ (held value gave)⟩

/-- A single call, with the reply to it. -/
theorem Makes.employs {step : Action δ τ α} {call : Call δ τ} {wrap : α → Reply δ τ}
    (makes : pipeline.Makes step call wrap) (warranted : pipeline.Warrants history call) :
    pipeline.Employs history step fun value after =>
      after = history ++ [call] ∧ pipeline.reply history call = .ok (wrap value) := by
  intro store
  obtain ⟨result, replied, run⟩ := makes history
  refine ⟨result, [call], _, run store, ⟨warranted, trivial⟩, ?_⟩
  rintro value rfl
  exact ⟨rfl, replied⟩

/-- A single call, where the reply to it does not matter. -/
theorem Makes.follows {step : Action δ τ α} {call : Call δ τ} {wrap : α → Reply δ τ}
    (makes : pipeline.Makes step call wrap) (warranted : pipeline.Warrants history call) :
    pipeline.Employs history step fun _ _ => True :=
  (makes.employs warranted).imp fun _ _ _ => trivial

namespace Employs

section

variable {step : Action δ τ α} {next : α → Action δ τ β} {holds : α → History δ τ → Prop}
  {last : β → History δ τ → Prop}

theorem pure {value : α} (held : holds value history) :
    pipeline.Employs history (pure value) holds := by
  intro store
  refine ⟨.ok value, [], store, by simp, trivial, ?_⟩
  rintro _ ⟨⟩
  rwa [List.append_nil]

theorem bind (first : pipeline.Employs history step holds)
    (rest : ∀ value calls, holds value (history ++ calls) →
      pipeline.Employs (history ++ calls) (next value) last) :
    pipeline.Employs history (step >>= next) last := by
  intro store
  obtain ⟨result, calls, store', run, warranted, held⟩ := first store
  cases result with
  | error failure =>
    exact ⟨.error failure, calls, store', Step.run_bind_error run, warranted, by simp⟩
  | ok value =>
    obtain ⟨final, more, store'', runNext, warrantedNext, heldNext⟩ :=
      rest value calls (held value rfl) store'
    refine ⟨final, calls ++ more, store'', ?_, ?_, ?_⟩
    · rw [Step.run_bind_ok run, runNext, List.append_assoc]
    · exact (pipeline.warranted_append history calls more).mpr ⟨warranted, warrantedNext⟩
    · rwa [← List.append_assoc]

theorem map {f : α → β} (employs : pipeline.Employs history step holds)
    (carries : ∀ value after, holds value after → last (f value) after) :
    pipeline.Employs history (f <$> step) last := by
  rw [map_eq_pure_bind]
  exact employs.bind fun value calls held => Employs.pure (carries value _ held)

/-- The store makes no calls. -/
theorem attempt (employs : pipeline.Employs history step holds) :
    pipeline.Employs history step.attempt fun slot after =>
      ∀ value, slot = some value → holds value after := by
  intro store
  obtain ⟨result, calls, store', run, warranted, held⟩ := employs store
  cases result with
  | ok value =>
    refine ⟨.ok (some value), calls, store', Step.run_attempt_of_ok run, warranted, ?_⟩
    rintro _ ⟨⟩ _ ⟨⟩
    exact held value rfl
  | error failure =>
    cases policy : store'.stopAtFirstError with
    | true =>
      exact ⟨.error failure, calls, store', Step.run_attempt_of_stop run policy, warranted,
        by simp⟩
    | false =>
      exact ⟨.ok none, calls, _, Step.run_attempt_of_keep run policy, warranted, by simp⟩

end

section

variable {holds : β → History δ τ → Prop}
  (stays : ∀ value earlier more, holds value earlier → holds value (earlier ++ more))

include stays

theorem mapM {step : α → Action δ τ β}
    (each : ∀ value history, pipeline.Employs history (step value) holds) (values : List α)
    (history : History δ τ) :
    pipeline.Employs history (values.mapM step) fun outputs after =>
      ∀ output ∈ outputs, holds output after := by
  induction values generalizing history with
  | nil =>
    rw [List.mapM_nil]
    exact Employs.pure (by simp)
  | cons value values ih =>
    rw [List.mapM_cons]
    refine (each value history).bind fun first calls held => (ih _).bind fun rest more others => ?_
    refine Employs.pure fun output member => ?_
    cases member with
    -- What holds of the first output has to outlast the calls for the others.
    | head => exact stays first _ more held
    | tail _ member => exact others output member

theorem tryMap {stage : α → Action δ τ β}
    (each : ∀ value history, pipeline.Employs history (stage value) holds) (batch : Batch α)
    (history : History δ τ) :
    pipeline.Employs history (batch.tryMap stage) fun output after =>
      ∀ value ∈ output.successes, holds value after := by
  have slotStays : ∀ (slot : Option β) (earlier more : History δ τ),
      (∀ value, slot = some value → holds value earlier) →
        ∀ value, slot = some value → holds value (earlier ++ more) :=
    fun slot earlier more held value filled => stays value earlier more (held value filled)
  refine (mapM slotStays (fun slot history => ?_) batch.slots history).bind
    fun slots calls held => Employs.pure fun value member => ?_
  · cases slot with
    | none => exact Employs.pure (by simp)
    | some value => exact (each value history).attempt
  · obtain ⟨slot, inside, filled⟩ := List.mem_filterMap.mp member
    exact held slot inside value filled

end

end Employs

variable (pipeline) (history)

theorem employs_emit (line : String) :
    pipeline.Employs history (pipeline.emit line) fun _ after =>
      after = history ++ [.emit pipeline.log line] :=
  ((pipeline.makes_emit line).employs rfl).imp fun _ _ made => made.1

theorem employs_decodeFile (path : String) :
    pipeline.Employs history (pipeline.decodeFile path) fun _ _ => True := by
  refine ((pipeline.makes_read path).employs trivial).bind fun dump calls held => ?_
  obtain ⟨here, replied⟩ := held
  -- The step goes on with a dump only where the file system gave one.
  have gave : pipeline.fileSystem.read history path = .ok dump := by
    cases answer : pipeline.fileSystem.read history path with
    | error failure => simp [reply, answer, Except.map] at replied
    | ok text => simpa [reply, answer, Except.map] using replied
  rw [here]
  exact (pipeline.makes_decode dump).follows ⟨history, path, rfl, gave⟩

theorem employs_writeInput (outputDir input source : String) :
    pipeline.Employs history (pipeline.writeInput outputDir input source) fun path after =>
      pipeline.Took after path := by
  refine ((pipeline.makes_writeSource _ source).employs ⟨input, outputDir, rfl⟩).bind
    fun done calls held => Employs.pure ?_
  obtain ⟨here, replied⟩ := held
  refine ⟨history, source, [], here, ?_⟩
  cases answer : pipeline.fileSystem.write history
      (ArtifactPath.source input outputDir pipeline.bridge.language) source with
  | error failure => simp [reply, answer, Except.map] at replied
  | ok done => rfl

theorem employs_invoke {invocation : Invocation} (orders : pipeline.Orders history invocation) :
    pipeline.Employs history (pipeline.invoke invocation) fun answer after =>
      pipeline.Answered after answer := by
  refine ((pipeline.makes_invoke invocation).employs ⟨rfl, orders⟩).imp fun answer after held => ?_
  obtain ⟨here, replied⟩ := held
  refine ⟨history, invocation, here, ?_⟩
  simpa [reply] using replied

/-- A stage is announced, then taken. -/
theorem employs_announced {stage : α → Action δ τ β} (line : String) (batch : Batch α)
    (each : ∀ value history, pipeline.Employs history (stage value) fun _ _ => True) :
    pipeline.Employs history (pipeline.emit line >>= fun _ => batch.tryMap stage)
      fun _ _ => True :=
  (pipeline.employs_emit history line).bind fun _ _ _ =>
    (Employs.tryMap (fun _ _ _ => id) each batch _).imp fun _ _ _ => trivial

theorem employs_decode (inputs : List String) :
    pipeline.Employs history (pipeline.decode inputs) fun _ _ => True :=
  pipeline.employs_announced history _ _ fun path history =>
    pipeline.employs_decodeFile history path

theorem employs_translate (inputs : List String) :
    pipeline.Employs history (pipeline.translate inputs) fun _ _ => True :=
  (pipeline.employs_decode history inputs).bind fun _ _ _ =>
    pipeline.employs_announced _ _ _ fun tree _ =>
      (pipeline.makes_translateTree _ tree).follows trivial

theorem employs_applyRound (round : PassRound) (trees : Batch τ) :
    pipeline.Employs history (pipeline.applyRound round trees) fun _ _ => True :=
  pipeline.employs_announced history _ _ fun tree _ =>
    (pipeline.makes_refreshLibrary.follows trivial).bind fun _ _ _ =>
      (pipeline.makes_runRound round tree).follows trivial

theorem employs_applyBothRounds (trees : Batch τ) :
    pipeline.Employs history (pipeline.applyBothRounds trees) fun _ _ => True :=
  pipeline.employs_announced history _ _ fun tree _ =>
    (pipeline.makes_refreshLibrary.follows trivial).bind fun _ _ _ =>
      ((pipeline.makes_runRound .first tree).follows trivial).bind fun changed _ _ =>
        (pipeline.makes_runRound .second changed).follows trivial

theorem employs_firstRound (inputs : List String) :
    pipeline.Employs history (pipeline.runFirstRound inputs) fun _ _ => True :=
  (pipeline.employs_translate history inputs).bind fun trees _ _ =>
    pipeline.employs_applyRound _ .first trees

theorem employs_bothRounds (inputs : List String) :
    pipeline.Employs history (pipeline.runBothRounds inputs) fun _ _ => True :=
  (pipeline.employs_translate history inputs).bind fun trees _ _ =>
    pipeline.employs_applyBothRounds _ trees

theorem employs_generate (inputs : List String) :
    pipeline.Employs history (pipeline.generate inputs) fun _ _ => True :=
  (pipeline.employs_bothRounds history inputs).bind fun _ _ _ =>
    pipeline.employs_announced _ _ _ fun tree _ =>
      (pipeline.makes_generateSource tree).follows trivial

/-- The compiler gets what the file system took. -/
theorem employs_compile (inputs : List String) (outputDir : String) :
    pipeline.Employs history (pipeline.compile inputs outputDir) fun answer after =>
      pipeline.Answered after answer := by
  rw [compile_parts, writeSources, bind_assoc]
  refine (pipeline.employs_generate history inputs).bind fun sources _ _ => ?_
  refine (Employs.tryMap (fun path _ more took => took.append more)
    (fun pair history => pipeline.employs_writeInput history outputDir pair.1 pair.2)
    (sources.withInputs inputs) _).bind fun written _ taken => ?_
  refine (pipeline.employs_emit _ _).bind fun _ _ announced => ?_
  refine pipeline.employs_invoke _ (.inl ⟨written.successes, outputDir, rfl, ?_⟩)
  exact fun path member => (taken path member).append _

/-- The runtime is started behind the compiler. -/
theorem employs_run (inputs : List String) (outputDir : String) (arguments : List String) :
    pipeline.Employs history (pipeline.run inputs outputDir arguments) fun answer after =>
      pipeline.Answered after answer := by
  refine (pipeline.employs_compile history inputs outputDir).bind fun compiled calls answered => ?_
  by_cases succeeded : compiled.any ToolOutput.succeeded = true
  · rw [if_pos succeeded]
    obtain ⟨output, rfl, zero⟩ := (Option.any_eq_true _ _).mp succeeded
    refine (pipeline.employs_emit _ _).bind fun _ more announced => ?_
    refine pipeline.employs_invoke _ (.inr ⟨outputDir, arguments, rfl, ?_⟩)
    exact ⟨_, _, output, announced, answered, zero⟩
  · rw [if_neg succeeded]
    exact Employs.pure answered

/-- Every operation goes by the parts of the pipeline, and where it ends with the output of a tool,
this is what the runner answered to the last call. -/
theorem employs_perform (operation : Operation τ) :
    pipeline.Employs history (pipeline.perform operation) fun product after =>
      ∀ answer, product = .output answer → pipeline.Answered after answer := by
  cases operation with
  | decode inputs => exact (pipeline.employs_decode history inputs).map (by simp)
  | translate inputs => exact (pipeline.employs_translate history inputs).map (by simp)
  | firstRound inputs => exact (pipeline.employs_firstRound history inputs).map (by simp)
  | bothRounds inputs => exact (pipeline.employs_bothRounds history inputs).map (by simp)
  | applyRound round trees => exact (pipeline.employs_applyRound history round trees).map (by simp)
  | generate inputs => exact (pipeline.employs_generate history inputs).map (by simp)
  | compile inputs outputDir =>
    exact (pipeline.employs_compile history inputs outputDir).map (by simp)
  | run inputs outputDir arguments =>
    exact (pipeline.employs_run history inputs outputDir arguments).map (by simp)

end StagedBuild.Pipeline
