import StagedBuild.Proofs.Reply
import StagedBuild.Proofs.WriteLoop

/-!
# Stopping at the first failure

A run that stops at the first failure is the run that keeps all failures, cut behind the first
call that fails.

* `Prompt` steps work on one input: they end with their first failure under either policy.
* `Governed` steps work on a batch: the policy decides whether a failure ends them, and nothing
  else that the store holds matters.
* Taking a prompt step over a batch is governed (`Governed.tryMap`), so every operation is
  (`governed_perform`), and `perform_stop` reads the law off.
-/

namespace StagedBuild.Pipeline

variable {δ τ α β : Type} (pipeline : Pipeline δ τ)

/-- The failure of a result, if it is one. -/
def failureOf : Except Failure α → List Failure
  | .ok _ => []
  | .error failure => [failure]

/-- What is left of a value when the first of some failures ends the run. -/
def stopped (value : α) : List Failure → Except Failure α
  | [] => .ok value
  | failure :: _ => .error failure

/-- The step ends with its first failure, and uses the store for warnings only. -/
def Prompt (step : Action δ τ α) : Prop :=
  ∀ history, ∃ (result : Except Failure α) (calls : List (Call δ τ)),
    pipeline.failures history calls = failureOf result ∧
    pipeline.untilFailure history calls = calls ∧
    ∀ store : Store, step.run ⟨history, store⟩ = (result, ⟨history ++ calls,
      { store with warnings := store.warnings ++ pipeline.warnings history calls }⟩)

/-- The step keeps every failure of its calls and goes on, or it stops at the first of them, as
the policy says. -/
def Governed (step : Action δ τ α) : Prop :=
  ∀ history, ∃ (value : α) (calls : List (Call δ τ)), ∀ errors warnings,
    step.run ⟨history, ⟨errors, warnings, false⟩⟩ =
      (.ok value, ⟨history ++ calls, ⟨errors ++ pipeline.failures history calls,
        warnings ++ pipeline.warnings history calls, false⟩⟩) ∧
    step.run ⟨history, ⟨errors, warnings, true⟩⟩ =
      (stopped value (pipeline.failures history calls),
        ⟨history ++ pipeline.untilFailure history calls, ⟨errors,
          warnings ++ pipeline.warnings history (pipeline.untilFailure history calls), true⟩⟩)

variable {pipeline}

theorem Makes.prompt {step : Action δ τ α} {call : Call δ τ} {wrap : α → Reply δ τ}
    (makes : pipeline.Makes step call wrap) : pipeline.Prompt step := by
  intro history
  obtain ⟨result, replied, run⟩ := makes history
  refine ⟨result, [call], ?_, pipeline.untilFailure_singleton history call, ?_⟩
  · rw [failures_singleton, failure?, replied]
    cases result <;> rfl
  · intro store
    rw [run, warnings_singleton]

theorem Prompt.pure (value : α) : pipeline.Prompt (pure value : Action δ τ α) := by
  intro history
  refine ⟨.ok value, [], rfl, rfl, fun store => ?_⟩
  simp [warnings]

theorem Prompt.bind {step : Action δ τ α} {next : α → Action δ τ β}
    (first : pipeline.Prompt step) (second : ∀ value, pipeline.Prompt (next value)) :
    pipeline.Prompt (step >>= next) := by
  intro history
  obtain ⟨result, calls, failed, cut, run⟩ := first history
  cases result with
  | error failure =>
    refine ⟨.error failure, calls, failed, cut, fun store => ?_⟩
    rw [Step.run_bind_error (run store)]
  | ok value =>
    obtain ⟨last, more, failedMore, cutMore, runMore⟩ := second value (history ++ calls)
    have success : pipeline.failures history calls = [] := failed
    refine ⟨last, calls ++ more, ?_, ?_, fun store => ?_⟩
    · rw [failures_append, success, List.nil_append, failedMore]
    · rw [untilFailure_append_of_success _ _ success, cutMore]
    · rw [Step.run_bind_ok (run store), runMore, warnings_append]
      simp only [List.append_assoc]

theorem Governed.pure (value : α) : pipeline.Governed (pure value : Action δ τ α) := by
  intro history
  refine ⟨value, [], fun errors warnings => ?_⟩
  simp [failures, Pipeline.warnings, untilFailure, stopped]

/-- A call that cannot fail leaves nothing to the policy. -/
theorem Makes.governed {step : Action δ τ α} {call : Call δ τ} {wrap : α → Reply δ τ}
    (makes : pipeline.Makes step call wrap)
    (succeeds : ∀ history, pipeline.failure? history call = none) : pipeline.Governed step := by
  intro history
  obtain ⟨result, replied, run⟩ := makes history
  have success := succeeds history
  rw [failure?, replied] at success
  cases result with
  | error failure => cases success
  | ok value =>
    refine ⟨value, [call], fun errors warnings => ?_⟩
    rw [run, run, failures_singleton, warnings_singleton, untilFailure_singleton, succeeds]
    simp [stopped]

theorem Governed.bind {step : Action δ τ α} {next : α → Action δ τ β}
    (first : pipeline.Governed step) (second : ∀ value, pipeline.Governed (next value)) :
    pipeline.Governed (step >>= next) := by
  intro history
  obtain ⟨value, calls, runs⟩ := first history
  obtain ⟨last, more, runsMore⟩ := second value (history ++ calls)
  refine ⟨last, calls ++ more, fun errors warnings => ⟨?_, ?_⟩⟩
  · rw [Step.run_bind_ok (runs errors warnings).1, (runsMore _ _).1, failures_append,
      warnings_append]
    simp only [List.append_assoc]
  · have stop := (runs errors warnings).2
    cases failed : pipeline.failures history calls with
    | nil =>
      rw [failed, stopped, untilFailure_of_success _ _ failed] at stop
      rw [Step.run_bind_ok stop, (runsMore _ _).2, failures_append, failed, List.nil_append,
        untilFailure_append_of_success _ _ failed, warnings_append]
      simp only [List.append_assoc]
    | cons failure rest =>
      rw [failed, stopped] at stop
      rw [Step.run_bind_error stop, failures_append, failed, List.cons_append, stopped,
        untilFailure_append_of_failure]
      simp [failed]

theorem Governed.map {step : Action δ τ α} (governed : pipeline.Governed step) (f : α → β) :
    pipeline.Governed (f <$> step) := by
  rw [map_eq_pure_bind]
  exact governed.bind fun value => Governed.pure (f value)

/-- Handing the failure of a prompt step to the store puts it under the policy. -/
theorem Prompt.attempt {step : Action δ τ α} (prompt : pipeline.Prompt step) :
    pipeline.Governed step.attempt := by
  intro history
  obtain ⟨result, calls, failed, cut, run⟩ := prompt history
  cases result with
  | ok value =>
    refine ⟨some value, calls, fun errors warnings => ⟨?_, ?_⟩⟩
    · rw [Step.run_attempt_of_ok (run _), failed]
      simp [failureOf]
    · rw [Step.run_attempt_of_ok (run _), failed, cut]
      rfl
  | error failure =>
    refine ⟨none, calls, fun errors warnings => ⟨?_, ?_⟩⟩
    · rw [Step.run_attempt_of_keep (run _) rfl, failed]
      rfl
    · rw [Step.run_attempt_of_stop (run _) rfl, failed, cut]
      rfl

theorem Governed.mapM {step : α → Action δ τ β} (governed : ∀ value, pipeline.Governed (step value))
    (values : List α) : pipeline.Governed (values.mapM step) := by
  induction values with
  | nil =>
    rw [List.mapM_nil]
    exact Governed.pure []
  | cons value values ih =>
    rw [List.mapM_cons]
    exact (governed value).bind fun first => ih.bind fun rest => Governed.pure (first :: rest)

theorem Governed.tryMap {stage : α → Action δ τ β} (prompt : ∀ value, pipeline.Prompt (stage value))
    (batch : Batch α) : pipeline.Governed (batch.tryMap stage) := by
  refine (Governed.mapM (fun slot => ?_) batch.slots).bind fun slots =>
    Governed.pure (Batch.mk slots)
  cases slot with
  | none => exact Governed.pure none
  | some value => exact (prompt value).attempt

variable (pipeline)

theorem prompt_decodeFile (path : String) : pipeline.Prompt (pipeline.decodeFile path) :=
  (pipeline.makes_read path).prompt.bind fun dump => (pipeline.makes_decode dump).prompt

theorem prompt_writeInput (outputDir input source : String) :
    pipeline.Prompt (pipeline.writeInput outputDir input source) :=
  (pipeline.makes_writeSource _ source).prompt.bind fun _ => Prompt.pure _

theorem governed_emit (line : String) : pipeline.Governed (pipeline.emit line) :=
  (pipeline.makes_emit line).governed fun _ => rfl

theorem governed_invoke (invocation : Invocation) :
    pipeline.Governed (pipeline.invoke invocation) :=
  (pipeline.makes_invoke invocation).governed fun _ => rfl

theorem governed_decode (inputs : List String) : pipeline.Governed (pipeline.decode inputs) :=
  (pipeline.governed_emit _).bind fun _ => Governed.tryMap pipeline.prompt_decodeFile _

theorem governed_translate (inputs : List String) : pipeline.Governed (pipeline.translate inputs) :=
  (pipeline.governed_decode inputs).bind fun _ => (pipeline.governed_emit _).bind fun _ =>
    Governed.tryMap (fun tree => (pipeline.makes_translateTree _ tree).prompt) _

theorem governed_applyRound (round : PassRound) (trees : Batch τ) :
    pipeline.Governed (pipeline.applyRound round trees) :=
  (pipeline.governed_emit _).bind fun _ => Governed.tryMap (fun tree =>
    pipeline.makes_refreshLibrary.prompt.bind fun _ =>
      (pipeline.makes_runRound round tree).prompt) _

theorem governed_applyBothRounds (trees : Batch τ) :
    pipeline.Governed (pipeline.applyBothRounds trees) :=
  (pipeline.governed_emit _).bind fun _ => Governed.tryMap (fun tree =>
    pipeline.makes_refreshLibrary.prompt.bind fun _ =>
      (pipeline.makes_runRound .first tree).prompt.bind fun changed =>
        (pipeline.makes_runRound .second changed).prompt) _

theorem governed_generate (inputs : List String) : pipeline.Governed (pipeline.generate inputs) :=
  ((pipeline.governed_translate inputs).bind pipeline.governed_applyBothRounds).bind fun _ =>
    (pipeline.governed_emit _).bind fun _ =>
      Governed.tryMap (fun tree => (pipeline.makes_generateSource tree).prompt) _

theorem governed_writeSources (inputs : List String) (outputDir : String) :
    pipeline.Governed (pipeline.writeSources inputs outputDir) :=
  (pipeline.governed_generate inputs).bind fun _ =>
    Governed.tryMap (fun _ => pipeline.prompt_writeInput outputDir _ _) _

theorem governed_compile (inputs : List String) (outputDir : String) :
    pipeline.Governed (pipeline.compile inputs outputDir) := by
  rw [compile_parts]
  exact (pipeline.governed_writeSources inputs outputDir).bind fun _ =>
    (pipeline.governed_emit _).bind fun _ => pipeline.governed_invoke _

theorem governed_run (inputs : List String) (outputDir : String) (arguments : List String) :
    pipeline.Governed (pipeline.run inputs outputDir arguments) := by
  refine (pipeline.governed_compile inputs outputDir).bind fun compiled => ?_
  split
  · exact (pipeline.governed_emit _).bind fun _ => pipeline.governed_invoke _
  · exact Governed.pure compiled

/-- Every operation leaves the meaning of a failure to the policy. -/
theorem governed_perform (operation : Operation τ) :
    pipeline.Governed (pipeline.perform operation) := by
  cases operation with
  | decode inputs => exact (pipeline.governed_decode inputs).map _
  | translate inputs => exact (pipeline.governed_translate inputs).map _
  | firstRound inputs =>
    exact ((pipeline.governed_translate inputs).bind (pipeline.governed_applyRound .first)).map _
  | bothRounds inputs =>
    exact ((pipeline.governed_translate inputs).bind pipeline.governed_applyBothRounds).map _
  | applyRound round trees => exact (pipeline.governed_applyRound round trees).map _
  | generate inputs => exact (pipeline.governed_generate inputs).map _
  | compile inputs outputDir => exact (pipeline.governed_compile inputs outputDir).map _
  | run inputs outputDir arguments => exact (pipeline.governed_run inputs outputDir arguments).map _

/-- Two runs of an operation that differ in the policy alone. If the run that keeps failures keeps
no new one, both are the same. Otherwise the run that stops gives back the first new failure: its
calls are those of the other run up to the call that failed so, it records no error, and its
warnings are those of the calls it made. -/
theorem perform_stop (operation : Operation τ) (history : History δ τ) (errors : List Failure)
    (warnings : List Diagnostic) :
    let kept := (pipeline.perform operation).run ⟨history, ⟨errors, warnings, false⟩⟩
    let halted := (pipeline.perform operation).run ⟨history, ⟨errors, warnings, true⟩⟩
    (kept.2.store.errors = errors →
      halted.1 = kept.1 ∧ halted.2.world = kept.2.world ∧
        halted.2.store = { kept.2.store with stopAtFirstError := true }) ∧
    (kept.2.store.errors ≠ errors →
      ∃ first rest before failing later,
        kept.2.store.errors = errors ++ first :: rest ∧
        halted.1 = .error first ∧
        kept.2.world = history ++ before ++ failing :: later ∧
        halted.2.world = history ++ before ++ [failing] ∧
        pipeline.failures history before = [] ∧
        pipeline.failure? (history ++ before) failing = some first ∧
        kept.2.store.warnings =
          warnings ++ pipeline.warnings history (before ++ failing :: later) ∧
        halted.2.store =
          ⟨errors, warnings ++ pipeline.warnings history (before ++ [failing]), true⟩) := by
  obtain ⟨value, calls, runs⟩ := pipeline.governed_perform operation history
  obtain ⟨keep, stop⟩ := runs errors warnings
  dsimp only
  rw [keep, stop]
  constructor
  · intro unchanged
    have success : pipeline.failures history calls = [] := by simpa using unchanged
    rw [untilFailure_of_success _ _ success, success]
    simp [stopped]
  · intro changed
    cases failed : pipeline.failures history calls with
    | nil => simp [failed] at changed
    | cons first rest =>
      obtain ⟨before, failing, later, split, cut, success, last⟩ :=
        pipeline.untilFailure_eq_of_failures_eq_cons history failed
      refine ⟨first, rest, before, failing, later, rfl, rfl, ?_, ?_, success, last, ?_, ?_⟩
      · rw [split, List.append_assoc]
      · rw [cut, List.append_assoc]
      · rw [split]
      · rw [cut]

end StagedBuild.Pipeline
