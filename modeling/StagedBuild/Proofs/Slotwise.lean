import Mathlib.Data.List.Basic
import StagedBuild.Proofs.Stopping

/-!
# Stages that go by the element alone

What a stage makes of one element may depend on that element alone (`Stage`). Over a batch such a
stage gives slot by slot its own result, and the store is told the failures and the warnings of
the slots in order, up to the failure that ends the run, if the policy lets one end it.

* `slotResult`, `slotFailures`, `slotWarnings`: what the stage makes of one slot.
* `outcome`, `keptOf`: what the policy makes of a value and the failures on the way to it.
* `Session.told`: the session after errors and warnings were added to its store.
* `Stage.run_mapM`: the stage over a list of slots, under either policy.
-/

namespace StagedBuild

variable {ω α β : Type}

namespace Session

/-- The session in another world, with these errors and warnings added to its store. -/
def told (session : Session ω) (world : ω) (errors : List Failure) (warnings : List Diagnostic) :
    Session ω :=
  ⟨world, { session.store with
    errors := session.store.errors ++ errors
    warnings := session.store.warnings ++ warnings }⟩

@[simp] theorem policy_told (session : Session ω) (world : ω) (errors : List Failure)
    (warnings : List Diagnostic) :
    (session.told world errors warnings).store.stopAtFirstError =
      session.store.stopAtFirstError := rfl

@[simp] theorem told_told (session : Session ω) (world next : ω) (errors more : List Failure)
    (warnings late : List Diagnostic) :
    (session.told world errors warnings).told next more late =
      session.told next (errors ++ more) (warnings ++ late) := by
  simp only [told, List.append_assoc]

@[simp] theorem told_nothing (session : Session ω) :
    session.told session.world [] [] = session := by
  simp only [told, List.append_nil]

end Session

namespace Pipeline

/-- The failure that a stage meets at a slot. -/
def slotFailures (result : α → Except Failure β) : Option α → List Failure
  | none => []
  | some value => failureOf (result value)

/-- The warnings that a stage records at a slot. -/
def slotWarnings (noted : α → List Diagnostic) : Option α → List Diagnostic
  | none => []
  | some value => noted value

/-- What a stage leaves in a slot. -/
def slotResult (result : α → Except Failure β) (slot : Option α) : Option β :=
  slot.bind fun value => (result value).toOption

theorem slotWarnings_silent (slot : Option α) : slotWarnings (fun _ => []) slot = [] := by
  cases slot <;> rfl

theorem slotResult_of_ok {result : α → Except Failure β} {value : α} {output : β}
    (h : result value = .ok output) : slotResult result (some value) = some output := by
  simp [slotResult, h, Except.toOption]

theorem slotResult_of_error {result : α → Except Failure β} {value : α} {failure : Failure}
    (h : result value = .error failure) : slotResult result (some value) = none := by
  simp [slotResult, h, Except.toOption]

theorem slotFailures_of_ok {result : α → Except Failure β} {value : α} {output : β}
    (h : result value = .ok output) : slotFailures result (some value) = [] := by
  simp [slotFailures, h, failureOf]

theorem slotFailures_of_error {result : α → Except Failure β} {value : α} {failure : Failure}
    (h : result value = .error failure) : slotFailures result (some value) = [failure] := by
  simp [slotFailures, h, failureOf]

/-- What a stage gives over a batch that has these failures, as the policy says. -/
def outcome (stop : Bool) (value : α) (failures : List Failure) : Except Failure α :=
  if stop then stopped value failures else .ok value

/-- The failures that the store keeps, as the policy says. -/
def keptOf (stop : Bool) (failures : List Failure) : List Failure :=
  if stop then [] else failures

@[simp] theorem outcome_nil (stop : Bool) (value : α) : outcome stop value [] = .ok value := by
  cases stop <;> rfl

@[simp] theorem keptOf_nil (stop : Bool) : keptOf stop [] = [] := by
  cases stop <;> rfl

theorem outcome_map (f : α → β) (stop : Bool) (value : α) (failures : List Failure) :
    (outcome stop value failures).map f = outcome stop (f value) failures := by
  cases stop with
  | false => rfl
  | true => cases failures <;> rfl

/-- Where the failures so far end the run, nothing behind them counts. -/
theorem outcome_append_of_error {stop : Bool} {value : α} {failures : List Failure}
    {failure : Failure} (ends : outcome stop value failures = .error failure) (whole : β)
    (more : List Failure) :
    outcome stop whole (failures ++ more) = .error failure ∧
      keptOf stop (failures ++ more) = keptOf stop failures := by
  cases stop with
  | false => cases ends
  | true =>
    cases failures with
    | nil => cases ends
    | cons first rest =>
      cases ends
      exact ⟨rfl, rfl⟩

/-- Where the failures so far do not end the run, it goes on with the value. -/
theorem outcome_append_of_ok {stop : Bool} {value given : α} {failures : List Failure}
    (goes : outcome stop value failures = .ok given) (whole : β) (more : List Failure) :
    given = value ∧ outcome stop whole (failures ++ more) = outcome stop whole more ∧
      keptOf stop (failures ++ more) = keptOf stop failures ++ keptOf stop more := by
  cases stop with
  | false => exact ⟨(Except.ok.inj goes).symm, rfl, rfl⟩
  | true =>
    cases failures with
    | nil => exact ⟨(Except.ok.inj goes).symm, rfl, rfl⟩
    | cons first rest => cases goes

end Pipeline

namespace Batch

open Pipeline (outcome keptOf slotResult slotFailures slotWarnings)

/-- A stage that goes by the element alone: its result and the warnings it records do not depend
on the session, and it does nothing else to the store. -/
structure Stage (ω α β : Type) where
  act : α → Step ω β
  result : α → Except Failure β
  noted : α → List Diagnostic
  answers : ∀ (value : α) (session : Session ω), ∃ world,
    (act value).run session = (result value, session.told world [] (noted value))

namespace Stage

variable (stage : Stage ω α β)

/-- One slot. -/
theorem run_trySlot (slot : Option α) (session : Session ω) :
    ∃ world, (trySlot stage.act slot).run session =
      (outcome session.store.stopAtFirstError (slotResult stage.result slot)
          (slotFailures stage.result slot),
        session.told world
          (keptOf session.store.stopAtFirstError (slotFailures stage.result slot))
          (slotWarnings stage.noted slot)) := by
  cases slot with
  | none => exact ⟨session.world, by simp [trySlot, slotResult, slotFailures, slotWarnings]⟩
  | some value =>
    obtain ⟨world, run⟩ := stage.answers value session
    refine ⟨world, ?_⟩
    cases fails : stage.result value with
    | ok output =>
      rw [fails] at run
      rw [trySlot, Step.run_attempt_of_ok run, Pipeline.slotResult_of_ok fails,
        Pipeline.slotFailures_of_ok fails, Pipeline.outcome_nil, Pipeline.keptOf_nil, slotWarnings]
    | error failure =>
      rw [fails] at run
      rw [Pipeline.slotResult_of_error fails, Pipeline.slotFailures_of_error fails]
      cases policy : session.store.stopAtFirstError with
      | true => exact Step.run_attempt_of_stop run policy
      | false =>
        rw [trySlot, Step.run_attempt_of_keep run policy]
        simp [outcome, keptOf, Session.told, slotWarnings]

/-- All slots. If a failure ends the run, the warnings are those up to there. -/
theorem run_mapM (slots : List (Option α)) (session : Session ω) :
    ∃ world noted, (slots.mapM (trySlot stage.act)).run session =
        (outcome session.store.stopAtFirstError (slots.map (slotResult stage.result))
            (slots.flatMap (slotFailures stage.result)),
          session.told world (keptOf session.store.stopAtFirstError
            (slots.flatMap (slotFailures stage.result))) noted) ∧
      noted <+: slots.flatMap (slotWarnings stage.noted) ∧
      (session.store.stopAtFirstError = false ∨ slots.flatMap (slotFailures stage.result) = [] →
        noted = slots.flatMap (slotWarnings stage.noted)) := by
  induction slots generalizing session with
  | nil => exact ⟨session.world, [], by simp, List.prefix_refl [], fun _ => rfl⟩
  | cons slot slots ih =>
    obtain ⟨middle, first⟩ := stage.run_trySlot slot session
    rw [List.map_cons, List.flatMap_cons, List.flatMap_cons]
    cases goes : outcome session.store.stopAtFirstError (slotResult stage.result slot)
      (slotFailures stage.result slot) with
    | error failure =>
      rw [goes] at first
      obtain ⟨ends, kept⟩ := Pipeline.outcome_append_of_error goes
        (slotResult stage.result slot :: slots.map (slotResult stage.result))
        (slots.flatMap (slotFailures stage.result))
      refine ⟨middle, slotWarnings stage.noted slot, ?_, List.prefix_append _ _, ?_⟩
      · rw [List.mapM_cons, Step.run_bind_error first, ends, kept]
      · rintro (keeps | none)
        · rw [keeps] at goes
          cases goes
        · rw [none, Pipeline.outcome_nil] at ends
          cases ends
    | ok output =>
      rw [goes] at first
      obtain ⟨rfl, same, kept⟩ := Pipeline.outcome_append_of_ok goes
        (slotResult stage.result slot :: slots.map (slotResult stage.result))
        (slots.flatMap (slotFailures stage.result))
      obtain ⟨world, noted, rest, early, all⟩ := ih (session.told middle _ _)
      refine ⟨world, slotWarnings stage.noted slot ++ noted, ?_,
        (List.prefix_append_right_inj _).mpr early, fun through => ?_⟩
      · rw [Step.run_mapM_cons first rest, same, kept, Pipeline.outcome_map, Session.told_told,
          Session.policy_told]
      · rw [all (through.imp_right fun none => (List.append_eq_nil_iff.mp none).2)]

end Stage

end Batch

end StagedBuild
