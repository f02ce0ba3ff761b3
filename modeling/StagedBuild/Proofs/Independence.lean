import StagedBuild.Pipeline.Operation
import StagedBuild.Proofs.Reply
import StagedBuild.Proofs.WriteLoop

/-!
# What a run does not depend on

What was recorded before a run, and the warnings that the rounds of passes record, have no
influence on it.

* `Adds`: what a step does after given calls and under a given policy, said without what the store
  holds.
* `Alike`: two steps that do the same but for the warnings they add. `Alike.bind`, `Alike.attempt`
  and `Alike.tryMap` carry this through the stages, from slot to slot.
* `alike_perform`: so every operation is alike for two pass runners that give the same trees.
-/

namespace StagedBuild.Pipeline

variable {δ τ α β : Type}

/-- The pipeline with a pass runner that gives the same trees and other warnings. -/
def withWarnings (pipeline : Pipeline δ τ)
    (noted : History δ τ → PassRound → τ → List Diagnostic) : Pipeline δ τ :=
  { pipeline with
    stages.passes.runRound := fun history round tree =>
      ((pipeline.stages.passes.runRound history round tree).1, noted history round tree) }

/-- After a history and under a policy, the step ends like this: it makes these calls and appends
these errors and warnings to whatever the store holds. -/
def Adds (step : Action δ τ α) (history : History δ τ) (stop : Bool) (result : Except Failure α)
    (calls : History δ τ) (errors : List Failure) (noted : List Diagnostic) : Prop :=
  ∀ (old : List Failure) (before : List Diagnostic),
    step.run ⟨history, ⟨old, before, stop⟩⟩ =
      (result, ⟨history ++ calls, ⟨old ++ errors, before ++ noted, stop⟩⟩)

/-- Two steps that end alike, make the same calls and append the same errors. -/
def Alike (step other : Action δ τ α) : Prop :=
  ∀ (history : History δ τ) (stop : Bool),
    ∃ (result : Except Failure α) (calls : History δ τ) (errors : List Failure)
      (noted noted' : List Diagnostic),
      Adds step history stop result calls errors noted ∧
        Adds other history stop result calls errors noted'

section Adds

variable {history calls more : History δ τ} {stop : Bool} {errors errors' : List Failure}
  {noted noted' : List Diagnostic}

theorem Adds.pure (value : α) (history : History δ τ) (stop : Bool) :
    Adds (pure value : Action δ τ α) history stop (.ok value) [] [] [] := by
  intro old before
  simp

theorem Adds.bind_error {step : Action δ τ α} {next : α → Action δ τ β} {failure : Failure}
    (fails : Adds step history stop (.error failure) calls errors noted) :
    Adds (step >>= next) history stop (.error failure) calls errors noted := by
  intro old before
  exact Step.run_bind_error (fails old before)

theorem Adds.bind_ok {step : Action δ τ α} {next : α → Action δ τ β} {value : α}
    {result : Except Failure β} (first : Adds step history stop (.ok value) calls errors noted)
    (rest : Adds (next value) (history ++ calls) stop result more errors' noted') :
    Adds (step >>= next) history stop result (calls ++ more) (errors ++ errors')
      (noted ++ noted') := by
  intro old before
  rw [Step.run_bind_ok (first old before), rest]
  simp only [List.append_assoc]

theorem Adds.attempt_ok {step : Action δ τ α} {value : α}
    (gives : Adds step history stop (.ok value) calls errors noted) :
    Adds step.attempt history stop (.ok (some value)) calls errors noted := by
  intro old before
  exact Step.run_attempt_of_ok (gives old before)

/-- The policy alone decides whether the store keeps a failure. -/
theorem Adds.attempt_error {step : Action δ τ α} {failure : Failure}
    (fails : Adds step history stop (.error failure) calls errors noted) :
    Adds step.attempt history stop (if stop then .error failure else .ok none) calls
      (if stop then errors else errors ++ [failure]) noted := by
  intro old before
  cases stop with
  | true => exact Step.run_attempt_of_stop (fails old before) rfl
  | false =>
    rw [Step.run_attempt_of_keep (fails old before) rfl]
    simp

theorem Makes.adds {pipeline : Pipeline δ τ} {step : Action δ τ α} {call : Call δ τ}
    {wrap : α → Reply δ τ} (makes : pipeline.Makes step call wrap) (history : History δ τ)
    (stop : Bool) : ∃ result : Except Failure α, pipeline.reply history call = result.map wrap ∧
      Adds step history stop result [call] [] (pipeline.warningsOf history call) := by
  obtain ⟨result, replied, run⟩ := makes history
  refine ⟨result, replied, fun old before => ?_⟩
  rw [run, List.append_nil]

end Adds

namespace Alike

theorem pure (value : α) : Alike (pure value : Action δ τ α) (pure value) :=
  fun history stop =>
    ⟨.ok value, [], [], [], [], Adds.pure value history stop, Adds.pure value history stop⟩

/-- A call does not look at the store. -/
theorem of_makes {pipeline : Pipeline δ τ} {step : Action δ τ α} {call : Call δ τ}
    {wrap : α → Reply δ τ} (makes : pipeline.Makes step call wrap) : Alike step step := by
  intro history stop
  obtain ⟨result, _, adds⟩ := makes.adds history stop
  exact ⟨result, [call], [], _, _, adds, adds⟩

theorem bind {step other : Action δ τ α} {next next' : α → Action δ τ β} (first : Alike step other)
    (rest : ∀ value, Alike (next value) (next' value)) : Alike (step >>= next) (other >>= next') := by
  intro history stop
  obtain ⟨result, calls, errors, noted, noted', one, two⟩ := first history stop
  cases result with
  | error failure =>
    exact ⟨.error failure, calls, errors, noted, noted', one.bind_error, two.bind_error⟩
  | ok value =>
    obtain ⟨last, more, errors', late, late', one', two'⟩ := rest value (history ++ calls) stop
    exact ⟨last, calls ++ more, errors ++ errors', noted ++ late, noted' ++ late',
      one.bind_ok one', two.bind_ok two'⟩

theorem map {step other : Action δ τ α} (f : α → β) (alike : Alike step other) :
    Alike (f <$> step) (f <$> other) := by
  rw [map_eq_pure_bind, map_eq_pure_bind]
  exact alike.bind fun value => Alike.pure (f value)

theorem attempt {step other : Action δ τ α} (alike : Alike step other) :
    Alike step.attempt other.attempt := by
  intro history stop
  obtain ⟨result, calls, errors, noted, noted', one, two⟩ := alike history stop
  cases result with
  | error failure => exact ⟨_, calls, _, noted, noted', one.attempt_error, two.attempt_error⟩
  | ok value => exact ⟨_, calls, errors, noted, noted', one.attempt_ok, two.attempt_ok⟩

theorem mapM {step other : α → Action δ τ β} (alike : ∀ value, Alike (step value) (other value))
    (values : List α) : Alike (values.mapM step) (values.mapM other) := by
  induction values with
  | nil =>
    rw [List.mapM_nil, List.mapM_nil]
    exact Alike.pure []
  | cons value values ih =>
    rw [List.mapM_cons, List.mapM_cons]
    exact (alike value).bind fun first => ih.bind fun rest => Alike.pure (first :: rest)

theorem tryMap {stage other : α → Action δ τ β} (alike : ∀ value, Alike (stage value) (other value))
    (batch : Batch α) : Alike (batch.tryMap stage) (batch.tryMap other) := by
  refine (mapM (fun slot => ?_) batch.slots).bind fun slots => Alike.pure (Batch.mk slots)
  cases slot with
  | none => exact Alike.pure none
  | some value => exact (alike value).attempt

end Alike

section

variable (pipeline : Pipeline δ τ) (noted : History δ τ → PassRound → τ → List Diagnostic)

theorem alike_emit (line : String) :
    Alike (pipeline.emit line) ((pipeline.withWarnings noted).emit line) :=
  Alike.of_makes (pipeline.makes_emit line)

/-- The one step that differs. -/
theorem alike_runRound (round : PassRound) (tree : τ) :
    Alike (pipeline.runRound round tree) ((pipeline.withWarnings noted).runRound round tree) := by
  intro history stop
  obtain ⟨result, replied, adds⟩ := (pipeline.makes_runRound round tree).adds history stop
  obtain ⟨result', replied', adds'⟩ :=
    ((pipeline.withWarnings noted).makes_runRound round tree).adds history stop
  have same : result' = result := by
    have trees : result.map Reply.tree = result'.map Reply.tree := replied.symm.trans replied'
    cases result with
    | error failure => cases replied
    | ok changed =>
      cases result' with
      | error failure => cases replied'
      | ok changed' =>
        cases trees
        rfl
  subst same
  exact ⟨result', _, [], _, _, adds, adds'⟩

theorem alike_decode (inputs : List String) :
    Alike (pipeline.decode inputs) ((pipeline.withWarnings noted).decode inputs) :=
  (pipeline.alike_emit noted _).bind fun _ => Alike.tryMap (fun path =>
    (Alike.of_makes (pipeline.makes_read path)).bind fun dump =>
      Alike.of_makes (pipeline.makes_decode dump)) _

theorem alike_translate (inputs : List String) :
    Alike (pipeline.translate inputs) ((pipeline.withWarnings noted).translate inputs) :=
  (pipeline.alike_decode noted inputs).bind fun _ => (pipeline.alike_emit noted _).bind fun _ =>
    Alike.tryMap (fun tree => Alike.of_makes (pipeline.makes_translateTree _ tree)) _

theorem alike_applyRound (round : PassRound) (trees : Batch τ) :
    Alike (pipeline.applyRound round trees)
      ((pipeline.withWarnings noted).applyRound round trees) :=
  (pipeline.alike_emit noted _).bind fun _ => Alike.tryMap (fun tree =>
    (Alike.of_makes pipeline.makes_refreshLibrary).bind fun _ =>
      pipeline.alike_runRound noted round tree) _

theorem alike_applyBothRounds (trees : Batch τ) :
    Alike (pipeline.applyBothRounds trees)
      ((pipeline.withWarnings noted).applyBothRounds trees) :=
  (pipeline.alike_emit noted _).bind fun _ => Alike.tryMap (fun tree =>
    (Alike.of_makes pipeline.makes_refreshLibrary).bind fun _ =>
      (pipeline.alike_runRound noted .first tree).bind fun changed =>
        pipeline.alike_runRound noted .second changed) _

theorem alike_generate (inputs : List String) :
    Alike (pipeline.generate inputs) ((pipeline.withWarnings noted).generate inputs) :=
  ((pipeline.alike_translate noted inputs).bind (pipeline.alike_applyBothRounds noted)).bind
    fun _ => (pipeline.alike_emit noted _).bind fun _ =>
      Alike.tryMap (fun tree => Alike.of_makes (pipeline.makes_generateSource tree)) _

theorem alike_writeInput (outputDir input source : String) :
    Alike (pipeline.writeInput outputDir input source)
      ((pipeline.withWarnings noted).writeInput outputDir input source) :=
  (Alike.of_makes (pipeline.makes_writeSource _ source)).bind fun _ => Alike.pure _

theorem alike_writeSources (inputs : List String) (outputDir : String) :
    Alike (pipeline.writeSources inputs outputDir)
      ((pipeline.withWarnings noted).writeSources inputs outputDir) :=
  (pipeline.alike_generate noted inputs).bind fun _ =>
    Alike.tryMap (fun _ => pipeline.alike_writeInput noted outputDir _ _) _

theorem alike_compile (inputs : List String) (outputDir : String) :
    Alike (pipeline.compile inputs outputDir)
      ((pipeline.withWarnings noted).compile inputs outputDir) := by
  rw [compile_parts, compile_parts]
  exact (pipeline.alike_writeSources noted inputs outputDir).bind fun _ =>
    (pipeline.alike_emit noted _).bind fun _ => Alike.of_makes (pipeline.makes_invoke _)

theorem alike_run (inputs : List String) (outputDir : String) (arguments : List String) :
    Alike (pipeline.run inputs outputDir arguments)
      ((pipeline.withWarnings noted).run inputs outputDir arguments) := by
  refine (pipeline.alike_compile noted inputs outputDir).bind fun compiled => ?_
  by_cases succeeded : compiled.any ToolOutput.succeeded
  · rw [if_pos succeeded, if_pos succeeded]
    exact (pipeline.alike_emit noted _).bind fun _ => Alike.of_makes (pipeline.makes_invoke _)
  · rw [if_neg succeeded, if_neg succeeded]
    exact Alike.pure compiled

/-- Every operation is alike for two pass runners that differ in their warnings. -/
theorem alike_perform (operation : Operation τ) :
    Alike (pipeline.perform operation) ((pipeline.withWarnings noted).perform operation) := by
  cases operation with
  | decode inputs => exact (pipeline.alike_decode noted inputs).map _
  | translate inputs => exact (pipeline.alike_translate noted inputs).map _
  | firstRound inputs =>
    exact ((pipeline.alike_translate noted inputs).bind
      (pipeline.alike_applyRound noted .first)).map _
  | bothRounds inputs =>
    exact ((pipeline.alike_translate noted inputs).bind (pipeline.alike_applyBothRounds noted)).map _
  | applyRound round trees => exact (pipeline.alike_applyRound noted round trees).map _
  | generate inputs => exact (pipeline.alike_generate noted inputs).map _
  | compile inputs outputDir => exact (pipeline.alike_compile noted inputs outputDir).map _
  | run inputs outputDir arguments =>
    exact (pipeline.alike_run noted inputs outputDir arguments).map _

/-- Two runs of an operation under one policy, from stores that hold whatever they hold, with pass
runners that give the same trees and whatever warnings. They end alike, make the same calls and
append the same errors; what each store held stays where it was. -/
theorem perform_independent (operation : Operation τ) (history : History δ τ) (stop : Bool)
    (old old' : List Failure) (before before' : List Diagnostic) :
    let one := (pipeline.perform operation).run ⟨history, ⟨old, before, stop⟩⟩
    let two :=
      ((pipeline.withWarnings noted).perform operation).run ⟨history, ⟨old', before', stop⟩⟩
    two.1 = one.1 ∧ two.2.world = one.2.world ∧
      ∃ (errors : List Failure) (late late' : List Diagnostic),
        one.2.store = ⟨old ++ errors, before ++ late, stop⟩ ∧
        two.2.store = ⟨old' ++ errors, before' ++ late', stop⟩ := by
  obtain ⟨result, calls, errors, late, late', adds, adds'⟩ :=
    pipeline.alike_perform noted operation history stop
  dsimp only
  rw [adds old before, adds' old' before']
  exact ⟨rfl, rfl, errors, late, late', rfl, rfl⟩

end

end StagedBuild.Pipeline
