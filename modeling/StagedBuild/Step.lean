import StagedBuild.Store

/-!
# Steps

A step either gives a value or fails, and may change the session it runs in: the diagnostic store
and a world of the caller's choice. What it changed stays changed when it fails.
-/

namespace StagedBuild

/-- What a step can change: the world of the program that takes the step, and the store. -/
structure Session (ω : Type) where
  world : ω
  store : Store

/-- A computation that may fail and may change its session. -/
def Step (ω α : Type) : Type :=
  Session ω → Except Failure α × Session ω

namespace Step

variable {ω α β : Type}

/-- Takes the step in a session. -/
def run (step : Step ω α) (session : Session ω) : Except Failure α × Session ω :=
  step session

instance : Monad (Step ω) where
  pure value := fun session => (.ok value, session)
  bind step next := fun session =>
    match step session with
    | (.ok value, after) => next value after
    | (.error failure, after) => (.error failure, after)

@[simp] theorem run_pure (value : α) (session : Session ω) :
    (pure value : Step ω α).run session = (.ok value, session) := rfl

theorem run_bind (step : Step ω α) (next : α → Step ω β) (session : Session ω) :
    (step >>= next).run session =
      match step.run session with
      | (.ok value, after) => (next value).run after
      | (.error failure, after) => (.error failure, after) := rfl

theorem run_bind_ok {step : Step ω α} {next : α → Step ω β} {session after : Session ω} {value : α}
    (h : step.run session = (.ok value, after)) :
    (step >>= next).run session = (next value).run after := by
  rw [run_bind, h]

theorem run_bind_error {step : Step ω α} {next : α → Step ω β} {session after : Session ω}
    {failure : Failure} (h : step.run session = (.error failure, after)) :
    (step >>= next).run session = (.error failure, after) := by
  rw [run_bind, h]

private theorem id_map_step (step : Step ω α) : id <$> step = step := by
  funext session
  show (match step session with
    | (.ok value, after) => ((.ok value, after) : Except Failure α × Session ω)
    | (.error failure, after) => (.error failure, after)) = step session
  rcases step session with ⟨_ | _, _⟩ <;> rfl

private theorem bind_assoc_step {γ : Type} (step : Step ω α) (next : α → Step ω β)
    (last : β → Step ω γ) : step >>= next >>= last = step >>= fun value => next value >>= last := by
  funext session
  show (match (match step session with
      | (.ok value, after) => next value after
      | (.error failure, after) => (.error failure, after)) with
    | (.ok value, after) => last value after
    | (.error failure, after) => ((.error failure, after) : Except Failure γ × Session ω)) =
    match step session with
    | (.ok value, after) => (next value >>= last) after
    | (.error failure, after) => (.error failure, after)
  rcases step session with ⟨_ | _, _⟩ <;> rfl

instance : LawfulMonad (Step ω) :=
  LawfulMonad.mk' (Step ω) id_map_step (fun _ _ => rfl) bind_assoc_step

/-- A step that goes through, in front of the steps for the other values. -/
theorem run_mapM_cons {step : α → Step ω β} {value : α} {values : List α} {output : β}
    {session middle after : Session ω} {result : Except Failure (List β)}
    (first : (step value).run session = (.ok output, middle))
    (rest : (values.mapM step).run middle = (result, after)) :
    ((value :: values).mapM step).run session = (result.map (output :: ·), after) := by
  rw [List.mapM_cons, run_bind_ok first]
  cases result with
  | ok outputs => rw [run_bind_ok rest]; rfl
  | error failure => rw [run_bind_error rest]; rfl

/-- Fails and changes nothing. -/
def fail (failure : Failure) : Step ω α :=
  fun session => (.error failure, session)

/-- Gives the value or the failure and changes nothing. -/
def ofExcept (result : Except Failure α) : Step ω α :=
  fun session => (result, session)

/-- Changes the store. -/
def modifyStore (change : Store → Store) : Step ω Unit :=
  fun session => (.ok (), { session with store := change session.store })

/-- Takes a step and hands its failure to the store. If the store keeps the failure there is no
value; if the store gives it back the whole fails. -/
def attempt (step : Step ω α) : Step ω (Option α) :=
  fun session =>
    match step.run session with
    | (.ok value, after) => (.ok (some value), after)
    | (.error failure, after) =>
      match after.store.recordError failure with
      | (.ok (), store) => (.ok none, { after with store })
      | (.error returned, store) => (.error returned, { after with store })

theorem run_attempt_of_ok {step : Step ω α} {session after : Session ω} {value : α}
    (h : step.run session = (.ok value, after)) :
    step.attempt.run session = (.ok (some value), after) := by
  simp only [run] at h
  simp only [attempt, run, h]

theorem run_attempt_of_stop {step : Step ω α} {session after : Session ω} {failure : Failure}
    (h : step.run session = (.error failure, after)) (stop : after.store.stopAtFirstError = true) :
    step.attempt.run session = (.error failure, after) := by
  simp only [run] at h
  simp only [attempt, run, h, Store.recordError, stop, if_true]

theorem run_attempt_of_keep {step : Step ω α} {session after : Session ω} {failure : Failure}
    (h : step.run session = (.error failure, after)) (keep : after.store.stopAtFirstError = false) :
    step.attempt.run session =
      (.ok none, { after with store := { after.store with
        errors := after.store.errors ++ [failure] } }) := by
  simp only [run] at h
  simp [attempt, run, h, Store.recordError, keep]

end Step

end StagedBuild
