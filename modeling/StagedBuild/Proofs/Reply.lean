import StagedBuild.Pipeline.Operation

/-!
# Replies along a history

The reply to a call is a function of the calls before it. So the calls of a run determine every
reply, every failure among the replies (`failures`) and every warning that was recorded
(`warnings`). `untilFailure` cuts a list of calls behind the first one that failed.
-/

namespace StagedBuild.Pipeline

/-- What a call that succeeds gives. -/
inductive Reply (δ τ : Type) where
  | text (text : String)
  | decoded (tree : δ)
  | tree (tree : τ)
  | output (output : Option ToolOutput)
  | done
  deriving DecidableEq, Repr

variable {δ τ α β : Type} (pipeline : Pipeline δ τ)

/-- The reply to a call that is made after a history. -/
def reply (history : History δ τ) : Call δ τ → Except Failure (Reply δ τ)
  | .read path => (pipeline.fileSystem.read history path).map .text
  | .decode dump => (pipeline.stages.decode history dump).map .decoded
  | .translate tree asMainFile => (pipeline.stages.translate history tree asMainFile).map .tree
  | .refresh => (pipeline.stages.passes.refresh history).map fun _ => .done
  | .runRound round tree => .ok (.tree (pipeline.stages.passes.runRound history round tree).1)
  | .generate tree => (pipeline.stages.generate history tree).map .text
  | .write path contents => (pipeline.fileSystem.write history path contents).map fun _ => .done
  | .invoke _ invocation => .ok (.output (pipeline.bridge.toolchain.answer history invocation))
  | .emit .. => .ok .done

/-- The failure that a call ends with, if it fails. -/
def failure? (history : History δ τ) (call : Call δ τ) : Option Failure :=
  match pipeline.reply history call with
  | .ok _ => none
  | .error failure => some failure

/-- The warnings that a call makes the store record. -/
def warningsOf (history : History δ τ) : Call δ τ → List Diagnostic
  | .runRound round tree => (pipeline.stages.passes.runRound history round tree).2
  | _ => []

/-- The failures that calls after a history end with, in the order of the calls. -/
def failures (history : History δ τ) : List (Call δ τ) → List Failure
  | [] => []
  | call :: calls =>
    (pipeline.failure? history call).toList ++ failures (history ++ [call]) calls

/-- The warnings that calls after a history record, in the order of the calls. -/
def warnings (history : History δ τ) : List (Call δ τ) → List Diagnostic
  | [] => []
  | call :: calls =>
    pipeline.warningsOf history call ++ warnings (history ++ [call]) calls

/-- The calls up to the first one that fails, that one included. -/
def untilFailure (history : History δ τ) : List (Call δ τ) → List (Call δ τ)
  | [] => []
  | call :: calls =>
    if (pipeline.failure? history call).isSome then [call]
    else call :: untilFailure (history ++ [call]) calls

theorem failures_append (history : History δ τ) (calls more : List (Call δ τ)) :
    pipeline.failures history (calls ++ more) =
      pipeline.failures history calls ++ pipeline.failures (history ++ calls) more := by
  induction calls generalizing history with
  | nil => simp [failures]
  | cons call calls ih =>
    simp only [List.cons_append, failures, ih, List.append_assoc, List.nil_append]

theorem warnings_append (history : History δ τ) (calls more : List (Call δ τ)) :
    pipeline.warnings history (calls ++ more) =
      pipeline.warnings history calls ++ pipeline.warnings (history ++ calls) more := by
  induction calls generalizing history with
  | nil => simp [warnings]
  | cons call calls ih =>
    simp only [List.cons_append, warnings, ih, List.append_assoc, List.nil_append]

@[simp] theorem failures_singleton (history : History δ τ) (call : Call δ τ) :
    pipeline.failures history [call] = (pipeline.failure? history call).toList := by
  simp [failures]

@[simp] theorem warnings_singleton (history : History δ τ) (call : Call δ τ) :
    pipeline.warnings history [call] = pipeline.warningsOf history call := by
  simp [warnings]

@[simp] theorem untilFailure_singleton (history : History δ τ) (call : Call δ τ) :
    pipeline.untilFailure history [call] = [call] := by
  simp [untilFailure]

/-- Calls that all succeed are not cut. -/
theorem untilFailure_append_of_success (history : History δ τ) {calls : List (Call δ τ)}
    (success : pipeline.failures history calls = []) (more : List (Call δ τ)) :
    pipeline.untilFailure history (calls ++ more) =
      calls ++ pipeline.untilFailure (history ++ calls) more := by
  induction calls generalizing history with
  | nil => simp
  | cons call calls ih =>
    simp only [failures, List.append_eq_nil_iff] at success
    obtain ⟨first, later⟩ := success
    have notFailed : (pipeline.failure? history call).isSome = false := by
      simpa using first
    simp only [List.cons_append, untilFailure, notFailed, Bool.false_eq_true, if_false,
      ih _ later, List.append_assoc, List.nil_append]

theorem untilFailure_of_success (history : History δ τ) {calls : List (Call δ τ)}
    (success : pipeline.failures history calls = []) :
    pipeline.untilFailure history calls = calls := by
  simpa [untilFailure] using pipeline.untilFailure_append_of_success history success []

/-- Nothing after the first failure counts. -/
theorem untilFailure_append_of_failure (history : History δ τ) {calls : List (Call δ τ)}
    (failed : pipeline.failures history calls ≠ []) (more : List (Call δ τ)) :
    pipeline.untilFailure history (calls ++ more) = pipeline.untilFailure history calls := by
  induction calls generalizing history with
  | nil => exact absurd rfl failed
  | cons call calls ih =>
    simp only [List.cons_append, untilFailure]
    by_cases first : (pipeline.failure? history call).isSome
    · simp only [first, if_true]
    · have later : pipeline.failures (history ++ [call]) calls ≠ [] := by
        intro none
        apply failed
        simp only [failures, none, List.append_nil]
        simpa using first
      simp only [first, ih _ later]

/-- The calls up to the first failure are the calls before it, which all succeed, and the one
that fails. -/
theorem untilFailure_eq_of_failures_eq_cons (history : History δ τ) {calls : List (Call δ τ)}
    {first : Failure} {rest : List Failure} (h : pipeline.failures history calls = first :: rest) :
    ∃ before failing later, calls = before ++ failing :: later ∧
      pipeline.untilFailure history calls = before ++ [failing] ∧
      pipeline.failures history before = [] ∧
      pipeline.failure? (history ++ before) failing = some first := by
  induction calls generalizing history with
  | nil => simp [failures] at h
  | cons call calls ih =>
    cases fails : pipeline.failure? history call with
    | some failure =>
      simp only [failures, fails, Option.toList_some, List.cons_append, List.cons.injEq] at h
      refine ⟨[], call, calls, rfl, ?_, rfl, ?_⟩
      · simp [untilFailure, fails]
      · simp [fails, h.1]
    | none =>
      simp only [failures, fails, Option.toList_none, List.nil_append] at h
      obtain ⟨before, failing, later, split, cut, success, last⟩ := ih _ h
      refine ⟨call :: before, failing, later, ?_, ?_, ?_, ?_⟩
      · rw [split, List.cons_append]
      · simp [untilFailure, fails, cut]
      · simp [failures, fails, success]
      · simpa using last

/-- The step makes this one call, whatever the store holds. It gives what the reply stands for,
fails as the reply does, and records the warnings of the call and nothing else. -/
def Makes (step : Action δ τ α) (call : Call δ τ) (wrap : α → Reply δ τ) : Prop :=
  ∀ history, ∃ result : Except Failure α, pipeline.reply history call = result.map wrap ∧
    ∀ store : Store, step.run ⟨history, store⟩ = (result, ⟨history ++ [call],
      { store with warnings := store.warnings ++ pipeline.warningsOf history call }⟩)

theorem run_call (made : Call δ τ) (answer : History δ τ → α) (session : Session (History δ τ)) :
    (call made answer).run session =
      (.ok (answer session.world), { session with world := session.world ++ [made] }) := rfl

theorem run_tryCall (made : Call δ τ) (answer : History δ τ → Except Failure α)
    (session : Session (History δ τ)) :
    (tryCall made answer).run session =
      (answer session.world, { session with world := session.world ++ [made] }) := rfl

variable {pipeline} in
/-- A call that may fail and records no warning. -/
theorem makes_tryCall {made : Call δ τ} {answer : History δ τ → Except Failure α}
    {wrap : α → Reply δ τ}
    (replies : ∀ history, pipeline.reply history made = (answer history).map wrap)
    (silent : ∀ history, pipeline.warningsOf history made = []) :
    pipeline.Makes (tryCall made answer) made wrap := by
  intro history
  refine ⟨answer history, replies history, fun store => ?_⟩
  rw [run_tryCall, silent, List.append_nil]

variable {pipeline} in
/-- A call that cannot fail and records no warning. -/
theorem makes_call {made : Call δ τ} {answer : History δ τ → α} {wrap : α → Reply δ τ}
    (replies : ∀ history, pipeline.reply history made = .ok (wrap (answer history)))
    (silent : ∀ history, pipeline.warningsOf history made = []) :
    pipeline.Makes (call made answer) made wrap := by
  intro history
  refine ⟨.ok (answer history), replies history, fun store => ?_⟩
  rw [run_call, silent, List.append_nil]

theorem makes_emit (line : String) :
    pipeline.Makes (pipeline.emit line) (.emit pipeline.log line) fun _ => .done :=
  makes_call (fun _ => rfl) fun _ => rfl

theorem makes_read (path : String) :
    pipeline.Makes (tryCall (.read path) fun history => pipeline.fileSystem.read history path)
      (.read path) .text :=
  makes_tryCall (fun _ => rfl) fun _ => rfl

theorem makes_decode (dump : String) :
    pipeline.Makes (tryCall (.decode dump) fun history => pipeline.stages.decode history dump)
      (.decode dump) .decoded :=
  makes_tryCall (fun _ => rfl) fun _ => rfl

theorem makes_translateTree (asMainFile : Bool) (tree : δ) :
    pipeline.Makes (pipeline.translateTree asMainFile tree) (.translate tree asMainFile) .tree :=
  makes_tryCall (fun _ => rfl) fun _ => rfl

theorem makes_refreshLibrary :
    pipeline.Makes pipeline.refreshLibrary .refresh fun _ => .done :=
  makes_tryCall (fun _ => rfl) fun _ => rfl

theorem makes_generateSource (tree : τ) :
    pipeline.Makes (pipeline.generateSource tree) (.generate tree) .text :=
  makes_tryCall (fun _ => rfl) fun _ => rfl

theorem makes_writeSource (path source : String) :
    pipeline.Makes (pipeline.writeSource path source) (.write path source) fun _ => .done :=
  makes_tryCall (fun _ => rfl) fun _ => rfl

theorem makes_invoke (invocation : Invocation) :
    pipeline.Makes (pipeline.invoke invocation)
      (.invoke pipeline.bridge.toolchain.name invocation) .output :=
  makes_call (fun _ => rfl) fun _ => rfl

theorem foldl_recordWarning (warnings : List Diagnostic) (store : Store) :
    warnings.foldl Store.recordWarning store =
      { store with warnings := store.warnings ++ warnings } := by
  induction warnings generalizing store with
  | nil => simp
  | cons warning warnings ih =>
    rw [List.foldl_cons, ih]
    simp [Store.recordWarning]

theorem makes_runRound (round : PassRound) (tree : τ) :
    pipeline.Makes (pipeline.runRound round tree) (.runRound round tree) .tree := by
  intro history
  refine ⟨.ok (pipeline.stages.passes.runRound history round tree).1, rfl, fun store => ?_⟩
  rw [runRound, Step.run_bind_ok (run_call _ _ _), Step.run_bind]
  simp only [Step.modifyStore, Step.run, foldl_recordWarning, warningsOf]
  rfl

end StagedBuild.Pipeline
