import Mathlib.Data.List.Perm.Basic
import StagedBuild.Proofs.Reference

/-!
# Both rounds at once, and one after the other

A pipeline can take every tree through both rounds before it goes on to the next tree, or take the
whole batch through the first round and then through the second. While no collaborator looks at
earlier calls the two ways agree (`rounds_separable`): same result, same errors, same policy. The
warnings come in another order, and each tree keeps the order of its own.

* `Interleaving`: parts that are merged, each in its own order. `Interleaving.rounds` is the merge
  that takes the front of every part first.
* `Leaves`: how a step ends in one session, under either policy.
* `Leaves.tryMap_silent`, `Gives.tryMap_ok`: a stage that records no warnings, and a stage that
  does not fail.
-/

namespace StagedBuild

/-- The list is made of the parts: every part is used up, from its front on. -/
inductive Interleaving {α : Type} : List (List α) → List α → Prop where
  | done {parts : List (List α)} (empty : ∀ part ∈ parts, part = []) : Interleaving parts []
  | take {before after : List (List α)} {part merged : List α} {head : α}
      (rest : Interleaving (before ++ part :: after) merged) :
      Interleaving (before ++ (head :: part) :: after) (head :: merged)

namespace Interleaving

variable {α ι : Type}

theorem perm {parts : List (List α)} {merged : List α} (interleaving : Interleaving parts merged) :
    merged.Perm parts.flatten := by
  induction interleaving with
  | done empty =>
    rw [List.flatten_eq_nil_iff.mpr empty]
  | take rest ih =>
    rw [List.flatten_append, List.flatten_cons] at ih ⊢
    exact (ih.cons _).trans List.perm_middle.symm

/-- The front of one part comes first. -/
theorem front {before after : List (List α)} {part merged : List α} (early : List α)
    (rest : Interleaving (before ++ part :: after) merged) :
    Interleaving (before ++ (early ++ part) :: after) (early ++ merged) := by
  induction early with
  | nil => exact rest
  | cons head early ih => exact ih.take

/-- The fronts of several parts come first. -/
theorem fronts (early late : ι → List α) (values : List ι) (before : List (List α))
    {merged : List α} (rest : Interleaving (before ++ values.map late) merged) :
    Interleaving (before ++ values.map fun value => early value ++ late value)
      (values.flatMap early ++ merged) := by
  induction values generalizing before with
  | nil => exact rest
  | cons value values ih =>
    rw [List.flatMap_cons, List.append_assoc]
    refine front (early value) ?_
    -- What is left of this part now stands with the parts that have lost their fronts.
    rw [List.append_cons]
    apply ih
    rwa [← List.append_cons]

/-- One part after the other. -/
theorem flatMap (parts : ι → List α) (values : List ι) :
    Interleaving (values.map parts) (values.flatMap parts) := by
  have used : Interleaving ([] ++ values.map fun _ => ([] : List α)) [] := .done (by simp)
  simpa using fronts parts (fun _ => []) values [] used

/-- The fronts of all parts, then what is left of each. -/
theorem rounds (early late : ι → List α) (values : List ι) :
    Interleaving (values.map fun value => early value ++ late value)
      (values.flatMap early ++ values.flatMap late) :=
  fronts early late values [] (flatMap late values)

end Interleaving

namespace Pipeline

variable {δ τ α β : Type} {pipeline : Pipeline δ τ}

/-- In this session, the step ends with this result and appends these errors and warnings to the
store. -/
def Leaves (step : Action δ τ α) (history : History δ τ) (store : Store)
    (result : Except Failure α) (errors : List Failure) (noted : List Diagnostic) : Prop :=
  ∃ after, step.run ⟨history, store⟩ =
    (result, ⟨after, { store with
      errors := store.errors ++ errors, warnings := store.warnings ++ noted }⟩)

section Leaves

variable {history : History δ τ} {store : Store} {errors more : List Failure}
  {noted late : List Diagnostic}

theorem Gives.leaves {step : Action δ τ α} {result : Except Failure α}
    (gives : Gives step result noted) (history : History δ τ) (store : Store) :
    Leaves step history store result [] noted := by
  obtain ⟨after, run⟩ := gives history store
  exact ⟨after, by rw [run, List.append_nil]⟩

theorem Leaves.bind_error {step : Action δ τ α} {next : α → Action δ τ β} {failure : Failure}
    (first : Leaves step history store (.error failure) errors noted) :
    Leaves (step >>= next) history store (.error failure) errors noted := by
  obtain ⟨after, run⟩ := first
  exact ⟨after, Step.run_bind_error run⟩

theorem Leaves.bind_ok {step : Action δ τ α} {next : α → Action δ τ β} {value : α}
    {result : Except Failure β} (first : Leaves step history store (.ok value) errors noted)
    (second : ∀ history, Leaves (next value) history { store with
      errors := store.errors ++ errors, warnings := store.warnings ++ noted } result more late) :
    Leaves (step >>= next) history store result (errors ++ more) (noted ++ late) := by
  obtain ⟨middle, run⟩ := first
  obtain ⟨after, runNext⟩ := second middle
  refine ⟨after, ?_⟩
  rw [Step.run_bind_ok run, runNext]
  simp only [List.append_assoc]

theorem Leaves.store_eq {step : Action δ τ α} {result : Except Failure α}
    (leaves : Leaves step history store result errors noted) :
    (step.run ⟨history, store⟩).2.store = { store with
      errors := store.errors ++ errors, warnings := store.warnings ++ noted } := by
  obtain ⟨after, run⟩ := leaves
  rw [run]

end Leaves

/-- A stage that records no warnings, under either policy. -/
theorem Leaves.tryMap_silent {stage : α → Action δ τ β} {result : α → Except Failure β}
    (gives : ∀ value, Gives (stage value) (result value) []) (batch : Batch α)
    (history : History δ τ) (store : Store) :
    Leaves (batch.tryMap stage) history store
      (outcome store.stopAtFirstError ⟨batch.slots.map (slotResult result)⟩
        (batch.slots.flatMap (slotFailures result)))
      (keptOf store.stopAtFirstError (batch.slots.flatMap (slotFailures result))) [] := by
  obtain ⟨after, noted, run, early, -⟩ :=
    (Gives.toStage gives).run_mapM batch.slots ⟨history, store⟩
  have silent : batch.slots.flatMap (slotWarnings fun _ : α => []) = [] := by
    simp [slotWarnings_silent]
  obtain rfl : noted = [] := List.prefix_nil.mp (silent ▸ early)
  refine ⟨after, (Batch.run_tryMap run).trans ?_⟩
  rw [outcome_map]
  rfl

/-- A stage that does not fail goes through, under either policy. -/
theorem Gives.tryMap_ok {stage : α → Action δ τ β} {output : α → β} {noted : α → List Diagnostic}
    (gives : ∀ value, Gives (stage value) (.ok (output value)) (noted value)) (batch : Batch α) :
    Gives (batch.tryMap stage) (.ok ⟨batch.slots.map (Option.map output)⟩)
      (batch.slots.flatMap (slotWarnings noted)) := by
  intro history store
  obtain ⟨after, _, run, -, all⟩ :=
    (Gives.toStage gives).run_mapM batch.slots ⟨history, store⟩
  have none_fails : batch.slots.flatMap
      (slotFailures fun value => (.ok (output value) : Except Failure β)) = [] := by
    refine List.flatMap_eq_nil_iff.mpr fun slot _ => ?_
    cases slot <;> rfl
  have outputs : slotResult (fun value => (.ok (output value) : Except Failure β)) =
      Option.map output := by
    funext slot
    cases slot <;> rfl
  cases all (.inr none_fails)
  refine ⟨after, (Batch.run_tryMap run).trans ?_⟩
  simp only [Gives.toStage, none_fails, outputs, outcome_nil, keptOf_nil, Session.told,
    List.append_nil]
  rfl

theorem Gives.emit (line : String) : Gives (pipeline.emit line) (.ok ()) [] :=
  fun history store => ⟨_, by rw [Pipeline.emit, run_call, List.append_nil]⟩

/-- A stage that is announced and records no warnings. -/
theorem Leaves.announced {stage : α → Action δ τ β} {result : α → Except Failure β}
    (gives : ∀ value, Gives (stage value) (result value) []) (line : String) (batch : Batch α)
    (history : History δ τ) (store : Store) :
    Leaves (pipeline.emit line >>= fun _ => batch.tryMap stage) history store
      (outcome store.stopAtFirstError ⟨batch.slots.map (slotResult result)⟩
        (batch.slots.flatMap (slotFailures result)))
      (keptOf store.stopAtFirstError (batch.slots.flatMap (slotFailures result))) [] := by
  obtain ⟨middle, said⟩ := Gives.emit line history store
  obtain ⟨after, run⟩ := Leaves.tryMap_silent gives batch middle store
  rw [List.append_nil] at said
  exact ⟨after, (Step.run_bind_ok said).trans run⟩

theorem outcome_eq_ok {stop : Bool} {value given : α} {failures : List Failure}
    (gives : outcome stop value failures = .ok given) : given = value := by
  unfold outcome at gives
  cases stop with
  | false => exact (Except.ok.inj gives).symm
  | true =>
    cases failures with
    | nil => exact (Except.ok.inj gives).symm
    | cons failure rest => cases gives

theorem slotResult_refused (failure : Failure) (slot : Option α) :
    slotResult (fun _ => (.error failure : Except Failure β)) slot = none := by
  cases slot <;> rfl

theorem slotWarnings_map (f : α → β) (noted : β → List Diagnostic) (slot : Option α) :
    slotWarnings noted (slot.map f) = slotWarnings (fun value => noted (f value)) slot := by
  cases slot <;> rfl

/-- The warnings of both rounds, tree by tree, if there are trees to work on. -/
def treeWarnings (pipeline : Pipeline δ τ) : Except Failure (Batch τ) → List (List Diagnostic)
  | .error _ => []
  | .ok trees => trees.slots.map (slotWarnings pipeline.changeWarnings)

/-- The tree after one round. -/
def roundTree (pipeline : Pipeline δ τ) (round : PassRound) (tree : τ) : τ :=
  (pipeline.stages.passes.runRound [] round tree).1

/-- The warnings of one round. -/
def roundWarnings (pipeline : Pipeline δ τ) (round : PassRound) (tree : τ) : List Diagnostic :=
  (pipeline.stages.passes.runRound [] round tree).2

section Steady

variable (steady : pipeline.Steady)
include steady

/-- Up to translation there are no warnings. -/
theorem Steady.translate_silent (inputs : List String) (history : History δ τ) (store : Store) :
    ∃ result errors, Leaves (pipeline.translate inputs) history store result errors [] := by
  have first : Leaves (pipeline.decode inputs) history store _ _ [] :=
    Leaves.announced steady.decodeFile _ _ history store
  cases decoding : outcome store.stopAtFirstError
      (Batch.mk ((Batch.ofList inputs).slots.map (slotResult pipeline.decoded)))
      ((Batch.ofList inputs).slots.flatMap (slotFailures pipeline.decoded)) with
  | error failure =>
    rw [decoding] at first
    exact ⟨_, _, first.bind_error⟩
  | ok trees =>
    rw [decoding] at first
    exact ⟨_, _, first.bind_ok fun history =>
      Leaves.announced (steady.translateTree (isSingle inputs)) _ trees history _⟩

section Library

variable (library : pipeline.stages.passes.refresh [] = .ok ())
include library

theorem Steady.applyRound_ok (round : PassRound) (trees : Batch τ) :
    Gives (pipeline.applyRound round trees)
      (.ok ⟨trees.slots.map (Option.map (pipeline.roundTree round))⟩)
      (trees.slots.flatMap (slotWarnings (pipeline.roundWarnings round))) := by
  refine (Gives.emit _).bind_ok (Gives.tryMap_ok (fun tree => ?_) trees)
  have refreshed : Gives pipeline.refreshLibrary (.ok ()) [] :=
    library ▸ Gives.tryCall steady.refresh
  exact refreshed.bind_ok (steady.runRound_gives round tree)

theorem Steady.applyBothRounds_ok (trees : Batch τ) :
    Gives (pipeline.applyBothRounds trees)
      (.ok ⟨trees.slots.map (Option.map fun tree =>
        pipeline.roundTree .second (pipeline.roundTree .first tree))⟩)
      (trees.slots.flatMap (slotWarnings pipeline.changeWarnings)) := by
  refine (Gives.emit _).bind_ok (Gives.tryMap_ok (fun tree => ?_) trees)
  have both := steady.bothRounds tree
  rw [changed, library] at both
  exact both

/-- If the library can be made anew, both ways go through. -/
theorem Steady.rounds_of_library (trees : Batch τ) : ∃ changed noted,
      Gives (pipeline.applyBothRounds trees) (.ok changed)
        (trees.slots.flatMap (slotWarnings pipeline.changeWarnings)) ∧
      Gives (pipeline.applyRound .first trees >>= pipeline.applyRound .second) (.ok changed) noted ∧
      Interleaving (trees.slots.map (slotWarnings pipeline.changeWarnings)) noted := by
  have apart := (steady.applyRound_ok library .first trees).bind_ok
    (steady.applyRound_ok library .second _)
  have own : slotWarnings pipeline.changeWarnings = fun slot =>
      slotWarnings (pipeline.roundWarnings .first) slot ++
        slotWarnings (fun tree =>
          pipeline.roundWarnings .second (pipeline.roundTree .first tree)) slot := by
    funext slot
    cases slot with
    | none => rfl
    | some tree => simp only [slotWarnings, changeWarnings, library, roundWarnings, roundTree]
  rw [List.map_map, List.flatMap_map] at apart
  simp only [Option.map_comp_map, slotWarnings_map] at apart
  refine ⟨_, _, steady.applyBothRounds_ok library trees, apart, ?_⟩
  rw [own]
  exact Interleaving.rounds _ _ trees.slots

end Library

section Refusal

variable {failure : Failure} (library : pipeline.stages.passes.refresh [] = .error failure)
include library

/-- No tree is worked on, and every tree fails. -/
theorem Steady.refused (next : τ → Unit → Action δ τ τ) (line : String) (trees : Batch τ)
    (history : History δ τ) (store : Store) :
    Leaves (pipeline.emit line >>= fun _ => trees.tryMap fun tree =>
        pipeline.refreshLibrary >>= next tree) history store
      (outcome store.stopAtFirstError ⟨trees.slots.map fun _ => none⟩
        (trees.successes.map fun _ => failure))
      (keptOf store.stopAtFirstError (trees.successes.map fun _ => failure)) [] := by
  have gives : ∀ tree, Gives (pipeline.refreshLibrary >>= next tree) (.error failure) [] :=
    fun tree => Gives.bind_error (library ▸ Gives.tryCall steady.refresh)
  have all : Leaves (pipeline.emit line >>= fun _ => trees.tryMap _) history store _ _ [] :=
    Leaves.announced gives line trees history store
  have failures : trees.slots.flatMap (slotFailures fun _ => (.error failure : Except Failure τ)) =
      trees.successes.map fun _ => failure := by
    rw [Batch.successes, List.filterMap_eq_flatMap_toList, List.map_flatMap]
    congr 1
    funext slot
    cases slot <;> rfl
  rwa [failures, funext (slotResult_refused failure)] at all

/-- Where no tree is left, a round changes nothing. -/
theorem Steady.applyRound_emptied (round : PassRound) (trees : Batch τ) (history : History δ τ)
    (store : Store) :
    Leaves (pipeline.applyRound round ⟨trees.slots.map fun _ => none⟩) history store
      (.ok ⟨trees.slots.map fun _ => none⟩) [] [] := by
  have none_left : (Batch.mk (trees.slots.map fun _ => (none : Option τ))).successes = [] := by
    simp [Batch.successes]
  have round : Leaves (pipeline.applyRound round ⟨_⟩) history store _ _ [] :=
    steady.refused library _ _ ⟨trees.slots.map fun _ => none⟩ history store
  rw [none_left, List.map_nil, List.map_map] at round
  cases policy : store.stopAtFirstError with
  | true => rwa [policy] at round
  | false => rwa [policy] at round

/-- The first round of either way fails alike, and the second round finds no tree. -/
theorem Steady.rounds_of_refusal (trees : Batch τ) (store : Store) : ∃ result errors,
    (∀ history, Leaves (pipeline.applyBothRounds trees) history store result errors []) ∧
    (∀ history, Leaves (pipeline.applyRound .first trees >>= pipeline.applyRound .second) history
      store result errors []) := by
  refine ⟨_, _, fun history => steady.refused library _ _ trees history store, fun history => ?_⟩
  have first : Leaves (pipeline.applyRound .first trees) history store _ _ [] :=
    steady.refused library _ _ trees history store
  cases given : outcome store.stopAtFirstError
      (Batch.mk (trees.slots.map fun _ => (none : Option τ)))
      (trees.successes.map fun _ => failure) with
  | error returned =>
    rw [given] at first
    exact first.bind_error
  | ok emptied =>
    rw [given] at first
    cases outcome_eq_ok given
    rw [← List.append_nil (keptOf _ _)]
    exact first.bind_ok fun history => steady.applyRound_emptied library .second trees history _

end Refusal

/-- Over the same trees, both ways end alike and merge the warnings of each tree. -/
theorem Steady.rounds_agree (trees : Batch τ) (store : Store) : ∃ result errors noted noted',
    (∀ history, Leaves (pipeline.applyBothRounds trees) history store result errors noted) ∧
    (∀ history, Leaves (pipeline.applyRound .first trees >>= pipeline.applyRound .second) history
      store result errors noted') ∧
    Interleaving (trees.slots.map (slotWarnings pipeline.changeWarnings)) noted ∧
    Interleaving (trees.slots.map (slotWarnings pipeline.changeWarnings)) noted' := by
  cases library : pipeline.stages.passes.refresh [] with
  | ok _ =>
    obtain ⟨changed, noted, both, apart, merged⟩ := steady.rounds_of_library library trees
    exact ⟨.ok changed, [], _, noted, fun history => both.leaves history store,
      fun history => apart.leaves history store, Interleaving.flatMap _ _, merged⟩
  | error failure =>
    obtain ⟨result, errors, both, apart⟩ := steady.rounds_of_refusal library trees store
    have silent : Interleaving (trees.slots.map (slotWarnings pipeline.changeWarnings)) [] := by
      refine .done fun part member => ?_
      obtain ⟨slot, -, rfl⟩ := List.mem_map.mp member
      cases slot with
      | none => rfl
      | some tree => simp only [slotWarnings, changeWarnings, library]
    exact ⟨result, errors, [], [], both, apart, silent, silent⟩

/-- Both rounds at once, and the first and then the second round over the whole batch, give the
same result and leave the same errors and the same policy, under either policy. They add the same
warnings, up to their order, and each tree's warnings in the same order. -/
theorem rounds_separable (inputs : List String) (history : History δ τ) (store : Store) :
    ∃ result errors noted noted',
      Leaves (pipeline.runBothRounds inputs) history store result errors noted ∧
      Leaves (pipeline.runFirstRound inputs >>= pipeline.applyRound .second) history store
        result errors noted' ∧
      noted'.Perm noted ∧
      Interleaving (pipeline.treeWarnings ((pipeline.translate inputs).run ⟨history, store⟩).1)
        noted ∧
      Interleaving (pipeline.treeWarnings ((pipeline.translate inputs).run ⟨history, store⟩).1)
        noted' := by
  obtain ⟨translated, failures, first⟩ := steady.translate_silent inputs history store
  have given : ((pipeline.translate inputs).run ⟨history, store⟩).1 = translated := by
    obtain ⟨after, run⟩ := first
    rw [run]
  rw [given, runFirstRound, bind_assoc]
  cases translated with
  | error failure =>
    exact ⟨.error failure, failures, [], [], first.bind_error, first.bind_error, .refl _,
      .done nofun, .done nofun⟩
  | ok trees =>
    obtain ⟨result, errors, noted, noted', both, apart, merged, merged'⟩ :=
      steady.rounds_agree trees _
    exact ⟨result, failures ++ errors, noted, noted', first.bind_ok both, first.bind_ok apart,
      merged'.perm.trans merged.perm.symm, merged, merged'⟩

end Steady

/-- Two trees go through both rounds and warn in each, and the input between them is torn. -/
theorem rounds_separable_text :
    textPipeline.Steady ∧ ∃ result noted noted',
      Leaves (textPipeline.runBothRounds ["a", "torn", "b"]) [] (Store.empty false) result
        [.decode "torn" unknownNode] noted ∧
      Leaves (textPipeline.runFirstRound ["a", "torn", "b"] >>= textPipeline.applyRound .second) []
        (Store.empty false) result [.decode "torn" unknownNode] noted' ∧
      noted.map Diagnostic.message = ["first", "second", "first", "second"] ∧
      noted'.map Diagnostic.message = ["first", "first", "second", "second"] := by
  have steady : textPipeline.Steady := by constructor <;> intros <;> rfl
  obtain ⟨result, errors, noted, noted', both, apart, -⟩ :=
    rounds_separable steady ["a", "torn", "b"] [] (Store.empty false)
  have fused : ((textPipeline.runBothRounds ["a", "torn", "b"]).run
        ⟨[], Store.empty false⟩).2.store.errors = [.decode "torn" unknownNode] ∧
      ((textPipeline.runBothRounds ["a", "torn", "b"]).run
        ⟨[], Store.empty false⟩).2.store.warnings.map Diagnostic.message =
        ["first", "second", "first", "second"] := by decide +kernel
  have separate : ((textPipeline.runFirstRound ["a", "torn", "b"] >>=
        textPipeline.applyRound .second).run
        ⟨[], Store.empty false⟩).2.store.warnings.map Diagnostic.message =
        ["first", "first", "second", "second"] := by decide +kernel
  rw [both.store_eq] at fused
  rw [apart.store_eq] at separate
  obtain rfl : errors = [.decode "torn" unknownNode] := fused.1
  exact ⟨steady, result, noted, noted', both, apart, fused.2, separate⟩

end Pipeline

end StagedBuild
