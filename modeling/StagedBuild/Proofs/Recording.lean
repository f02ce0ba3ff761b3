import Mathlib.Data.List.Basic
import Mathlib.Data.List.Induction
import StagedBuild.Store

/-!
# What a store remembers

A store is told errors and warnings, its policy is changed and it is cleared, in any order and any
number of times. What it holds then can be read off the history alone (`replay_remembers`).

* `policyAfter`: the policy that was set last.
* `remembered`: what the events left that none after them forgot. `keptErrors` are the errors that
  came while the policy was to keep them, `keptWarnings` all warnings.
* `Remembers.handle`: one event takes the store from what one history says to what the next says.
-/

namespace StagedBuild.Store

variable {α : Type}

/-- What a store can be told. -/
inductive Event where
  | error (failure : Failure)
  | warning (warning : Diagnostic)
  | setStop (stop : Bool)
  | clear
  deriving DecidableEq, Repr

/-- The policy that an event sets. -/
def Event.policy? : Event → Option Bool
  | .setStop stop => some stop
  | .error _ | .warning _ | .clear => none

/-- Tells the store an event. An error is given back if the store does not keep it. -/
def handle (store : Store) : Event → Except Failure Unit × Store
  | .error failure => store.recordError failure
  | .warning warning => (.ok (), store.recordWarning warning)
  | .setStop stop => (.ok (), store.setStop stop)
  | .clear => (.ok (), store.clear)

/-- The store after some events. -/
def replay (store : Store) (events : List Event) : Store :=
  events.foldl (fun store event => (store.handle event).2) store

/-- The policy after some events: the one that was set last, or the one at the start. -/
def policyAfter (stop : Bool) (events : List Event) : Bool :=
  (events.filterMap Event.policy?).getLast?.getD stop

/-- What events leave, in order, as far as nothing after them forgets it. What one event leaves
depends on the events before it. -/
def remembered (leaves : List Event → Event → Option α) (events : List Event) : List α :=
  (List.range events.length).filterMap fun index =>
    if .clear ∈ events.drop (index + 1) then none
    else events[index]?.bind (leaves (events.take index))

/-- The error that an event leaves: none while the policy is to stop. -/
def keptError? (stop : Bool) (earlier : List Event) : Event → Option Failure
  | .error failure => if policyAfter stop earlier then none else some failure
  | .warning _ | .setStop _ | .clear => none

/-- The warning that an event leaves. -/
def keptWarning? (_earlier : List Event) : Event → Option Diagnostic
  | .warning warning => some warning
  | .error _ | .setStop _ | .clear => none

/-- The errors of a history: those that came after it was last cleared, while they were kept. -/
def keptErrors (stop : Bool) (events : List Event) : List Failure :=
  remembered (keptError? stop) events

/-- The warnings of a history: those that came after it was last cleared. -/
def keptWarnings (events : List Event) : List Diagnostic :=
  remembered keptWarning? events

/-- The store holds what the history says. -/
structure Remembers (stop : Bool) (events : List Event) (store : Store) : Prop where
  policy : store.stopAtFirstError = policyAfter stop events
  errors : store.errors = keptErrors stop events
  warnings : store.warnings = keptWarnings events

theorem policyAfter_concat (stop : Bool) (events : List Event) (event : Event) :
    policyAfter stop (events ++ [event]) = event.policy?.getD (policyAfter stop events) := by
  unfold policyAfter
  rw [List.filterMap_append]
  cases event with
  | setStop next => simp [Event.policy?]
  | error failure => simp [Event.policy?]
  | warning warning => simp [Event.policy?]
  | clear => simp [Event.policy?]

/-- The last event forgets all that came before, or it only adds to it. -/
theorem remembered_concat (leaves : List Event → Event → Option α) (events : List Event)
    (event : Event) :
    remembered leaves (events ++ [event]) =
      (if event = .clear then [] else remembered leaves events) ++
        (leaves events event).toList := by
  have last : (events ++ [event])[events.length]? = some event := by simp
  have here : (events ++ [event]).take events.length = events := List.take_left' rfl
  unfold remembered
  rw [List.length_append, List.length_singleton, List.range_succ, List.filterMap_append]
  congr 1
  · -- The places before the last one: only whether they are forgotten can have changed.
    by_cases clears : event = .clear
    · rw [if_pos clears, List.filterMap_eq_nil_iff]
      intro index member
      have inside : index < events.length := List.mem_range.mp member
      rw [if_pos]
      rw [List.drop_append_of_le_length (by omega)]
      simp [clears]
    · rw [if_neg clears]
      refine List.filterMap_congr fun index member => ?_
      have inside : index < events.length := List.mem_range.mp member
      have same : Event.clear ∈ (events ++ [event]).drop (index + 1) ↔
          Event.clear ∈ events.drop (index + 1) := by
        rw [List.drop_append_of_le_length (by omega)]
        simp [Ne.symm clears]
      rw [List.getElem?_append_left inside, List.take_append_of_le_length (by omega)]
      simp only [same]
  · rw [List.filterMap_cons, List.filterMap_nil, last, here, List.drop_of_length_le (by simp),
      if_neg List.not_mem_nil, Option.bind_some]
    cases leaves events event <;> rfl

theorem Remembers.empty (stop : Bool) : Remembers stop [] (Store.empty stop) :=
  ⟨rfl, rfl, rfl⟩

theorem replay_concat (store : Store) (events : List Event) (event : Event) :
    store.replay (events ++ [event]) = ((store.replay events).handle event).2 := by
  simp [replay]

theorem handle_error (store : Store) (failure : Failure) :
    store.handle (.error failure) =
      if store.stopAtFirstError then (.error failure, store)
      else (.ok (), { store with errors := store.errors ++ [failure] }) :=
  rfl

/-- One more event. -/
theorem Remembers.handle {stop : Bool} {events : List Event} {store : Store}
    (remembers : Remembers stop events store) (event : Event) :
    Remembers stop (events ++ [event]) (store.handle event).2 := by
  obtain ⟨policy, errors, warnings⟩ := remembers
  suffices all : _ ∧ _ ∧ _ from ⟨all.1, all.2.1, all.2.2⟩
  rw [policyAfter_concat, keptErrors, keptWarnings, remembered_concat, remembered_concat,
    ← keptErrors, ← keptWarnings, ← errors, ← warnings, ← policy]
  cases event with
  | error failure =>
    rw [handle_error]
    cases keeps : store.stopAtFirstError with
    | true => simp [keptError?, keptWarning?, Event.policy?, ← policy, keeps]
    | false => simp [keptError?, keptWarning?, Event.policy?, ← policy, keeps]
  | warning warning =>
    simp [Store.handle, recordWarning, keptError?, keptWarning?, Event.policy?]
  | setStop next => simp [Store.handle, setStop, keptError?, keptWarning?, Event.policy?]
  | clear => simp [Store.handle, clear, keptError?, keptWarning?, Event.policy?]

/-- Any number of events. -/
theorem Remembers.replay (stop : Bool) (events : List Event) :
    Remembers stop events ((Store.empty stop).replay events) := by
  induction events using List.reverseRecOn with
  | nil => exact Remembers.empty stop
  | append_singleton events event ih =>
    rw [replay_concat]
    exact ih.handle event

/-- After every history, so after each of its steps, the store holds what the history says, its
counts are those of the two lists, and the next error is given back with nothing changed or kept,
as the policy that was set last says. -/
theorem replay_remembers (stop : Bool) (events : List Event) :
    let store := (Store.empty stop).replay events
    store.stopAtFirstError = policyAfter stop events ∧
    store.errors = keptErrors stop events ∧
    store.warnings = keptWarnings events ∧
    store.errorCount = (keptErrors stop events).length ∧
    store.warningCount = (keptWarnings events).length ∧
    (store.hasAny = true ↔ keptErrors stop events ≠ [] ∨ keptWarnings events ≠ []) ∧
    ∀ failure, store.handle (.error failure) =
      if policyAfter stop events then (.error failure, store)
      else (.ok (), { store with errors := keptErrors stop events ++ [failure] }) := by
  obtain ⟨policy, errors, warnings⟩ := Remembers.replay stop events
  refine ⟨policy, errors, warnings, ?_, ?_, ?_, fun failure => ?_⟩
  · rw [errorCount, errors]
  · rw [warningCount, warnings]
  · rw [hasAny, errors, warnings]
    simp
  · rw [handle_error, policy, errors]

/-- The first error is forgotten, the second is kept, and the third is given back. -/
example (first second third : Failure) :
    keptErrors false [.error first, .clear, .error second, .setStop true, .error third] =
      [second] := by
  rfl

end StagedBuild.Store
