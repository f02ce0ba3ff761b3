import Mathlib.Data.List.Perm.Basic
import StagedBuild.Proofs.Rounds

/-!
# Stages in a row

A batch is taken through stages one after the other. While each stage goes by the element alone,
the elements do not get in each other's way: every slot comes out as if it were alone
(`through_apart`). If failures are kept the store is told the same, up to the order. If a failure
ends the run, it is that of the earliest stage in which an element fails, and in that stage that
of the first element.

* `Chain`, `Chain.through`: the stages, and a batch taken through them.
* `Passage`: what becomes of one slot. `Becomes`, `Fails` and `Passes` say it by runs of the slot
  alone.
* `Chain.run_through`: the run of a batch, with all failures and warnings stage by stage.
* `Chain.first_failure`: whose failure comes first.
-/

namespace StagedBuild.Batch

open Pipeline (stopped outcome keptOf slotResult slotFailures slotWarnings outcome_map
  outcome_append_of_ok outcome_append_of_error slotResult_of_ok slotResult_of_error
  slotFailures_of_ok slotFailures_of_error)

variable {ω α β γ : Type}

/-- Stages in a row: what one gives is what the next one takes. -/
inductive Chain (ω : Type) : Type → Type → Type 1
  | done {α : Type} : Chain ω α α
  | stage {α β γ : Type} (first : Stage ω α β) (rest : Chain ω β γ) : Chain ω α γ

/-- What becomes of a slot: what it holds in the end, and what the store is told. -/
structure Passage (γ : Type) where
  slot : Option γ
  errors : List Failure
  warnings : List Diagnostic

/-- Where the image of a list is split, the list is. -/
theorem exists_split_of_map {f : α → β} {slots : List α} {front back : List β} {image : β}
    (split : slots.map f = front ++ image :: back) :
    ∃ before slot after, slots = before ++ slot :: after ∧ before.map f = front ∧
      f slot = image := by
  obtain ⟨before, tail, rfl, same, rest⟩ := List.map_eq_append_iff.mp split
  obtain ⟨slot, after, rfl, own, -⟩ := List.map_eq_cons_iff.mp rest
  exact ⟨before, slot, after, rfl, same, own⟩

/-- The first failure of a stage is that of the first slot that fails in it, and that slot is
empty from then on. -/
theorem first_slot {result : α → Except Failure β} {slots : List (Option α)} {failure : Failure}
    {more : List Failure} (fails : slots.flatMap (slotFailures result) = failure :: more) :
    ∃ before slot after, slots = before ++ slot :: after ∧
      (∀ other ∈ before, slotFailures result other = []) ∧
      slotFailures result slot = [failure] ∧ slotResult result slot = none := by
  obtain ⟨parts, part, rests, split, empty, -⟩ := List.flatten_eq_cons_iff.mp fails
  obtain ⟨before, slot, after, rfl, rfl, told⟩ := exists_split_of_map split
  refine ⟨before, slot, after, rfl, fun other member => empty _ (List.mem_map_of_mem member), ?_⟩
  cases slot with
  | none => cases told
  | some value =>
    cases given : result value with
    | ok output =>
      rw [slotFailures_of_ok given] at told
      cases told
    | error own =>
      rw [slotFailures_of_error given] at told ⊢
      cases told
      exact ⟨rfl, slotResult_of_error given⟩

namespace Chain

/-- Takes a batch through all stages, one after the other. -/
def through : {α γ : Type} → Chain ω α γ → Batch α → Step ω (Batch γ)
  | _, _, .done, batch => pure batch
  | _, _, .stage first rest, batch => batch.tryMap first.act >>= rest.through

/-- So many stages from the first one on, and what they end in. -/
def upTo : {α γ : Type} → Chain ω α γ → Nat → (β : Type) × Chain ω α β
  | _, _, _, 0 => ⟨_, .done⟩
  | _, _, .done, _ + 1 => ⟨_, .done⟩
  | _, _, .stage first rest, number + 1 => ⟨_, .stage first (rest.upTo number).2⟩

/-- What is in a slot after all stages. -/
def finish : {α γ : Type} → Chain ω α γ → Option α → Option γ
  | _, _, .done, slot => slot
  | _, _, .stage first rest, slot => rest.finish (slotResult first.result slot)

/-- What the stages have to tell of the slots, stage by stage and in a stage slot by slot. -/
def gather {κ : Type} (tell : {α β : Type} → Stage ω α β → Option α → List κ) :
    {α γ : Type} → Chain ω α γ → List (Option α) → List κ
  | _, _, .done, _ => []
  | _, _, .stage first rest, slots =>
    slots.flatMap (tell first) ++ rest.gather tell (slots.map (slotResult first.result))

/-- The failures of all slots. -/
def failures (chain : Chain ω α γ) (slots : List (Option α)) : List Failure :=
  chain.gather (fun stage => slotFailures stage.result) slots

/-- The warnings of all slots. -/
def warnings (chain : Chain ω α γ) (slots : List (Option α)) : List Diagnostic :=
  chain.gather (fun stage => slotWarnings stage.noted) slots

/-- What becomes of a slot by the answers of all stages. -/
def passage (chain : Chain ω α γ) (slot : Option α) : Passage γ :=
  ⟨chain.finish slot, chain.failures [slot], chain.warnings [slot]⟩

/-- While failures are kept, this is what becomes of the slot when it is alone. -/
def Becomes (chain : Chain ω α γ) (slot : Option α) (own : Passage γ) : Prop :=
  ∀ session : Session ω, session.store.stopAtFirstError = false →
    ∃ world, (chain.through ⟨[slot]⟩).run session =
      (.ok ⟨[own.slot]⟩, session.told world own.errors own.warnings)

/-- While failures end a run, this one ends the run of the slot when it is alone. -/
def Fails (chain : Chain ω α γ) (slot : Option α) (failure : Failure) : Prop :=
  ∀ session : Session ω, session.store.stopAtFirstError = true →
    ((chain.through ⟨[slot]⟩).run session).1 = .error failure

/-- While failures end a run, none ends the run of the slot when it is alone. -/
def Passes (chain : Chain ω α γ) (slot : Option α) : Prop :=
  ∀ session : Session ω, session.store.stopAtFirstError = true →
    ∃ output, ((chain.through ⟨[slot]⟩).run session).1 = .ok output

@[simp] theorem failures_upTo_zero (chain : Chain ω α γ) (slots : List (Option α)) :
    (chain.upTo 0).2.failures slots = [] := by
  cases chain <;> rfl

theorem failures_stage (first : Stage ω α β) (rest : Chain ω β γ) (slots : List (Option α)) :
    (stage first rest).failures slots =
      slots.flatMap (slotFailures first.result) ++
        rest.failures (slots.map (slotResult first.result)) := rfl

theorem failures_singleton (first : Stage ω α β) (rest : Chain ω β γ) (slot : Option α) :
    (stage first rest).failures [slot] =
      slotFailures first.result slot ++ rest.failures [slotResult first.result slot] := by
  rw [failures_stage, List.flatMap_singleton, List.map_singleton]

/-- An empty slot stays empty and has no failure. -/
theorem failures_none (chain : Chain ω α γ) :
    chain.finish none = none ∧ chain.failures [none] = [] := by
  induction chain with
  | done => exact ⟨rfl, rfl⟩
  | stage first rest ih =>
    rw [failures_singleton]
    exact ⟨ih.1, ih.2⟩

/-- A filled slot is filled in the end, or it is one error. -/
theorem failures_some (chain : Chain ω α γ) (value : α) :
    (∃ output, chain.finish (some value) = some output ∧ chain.failures [some value] = []) ∨
    ∃ failure, chain.finish (some value) = none ∧ chain.failures [some value] = [failure] := by
  induction chain with
  | done => exact .inl ⟨value, rfl, rfl⟩
  | stage first rest ih =>
    rw [failures_singleton, finish]
    cases given : first.result value with
    | ok output =>
      rw [slotResult_of_ok given, slotFailures_of_ok given]
      exact ih output
    | error failure =>
      obtain ⟨empty, silent⟩ := rest.failures_none
      rw [slotResult_of_error given, slotFailures_of_error given, empty, silent]
      exact .inr ⟨failure, rfl, rfl⟩

/-- A slot is at most one error, and it is one exactly if it was filled and is empty in the
end. -/
theorem passage_errors (chain : Chain ω α γ) (slot : Option α) :
    (chain.passage slot).errors.length ≤ 1 ∧
      ((chain.passage slot).errors ≠ [] ↔
        slot.isSome = true ∧ (chain.passage slot).slot = none) := by
  cases slot with
  | none => simp [passage, chain.failures_none]
  | some value =>
    obtain ⟨output, filled, silent⟩ | ⟨failure, empty, told⟩ := chain.failures_some value
    · simp [passage, filled, silent]
    · simp [passage, empty, told]

/-- Each stage takes the front of what there is to tell of each slot. -/
theorem gather_interleaved {κ : Type} (tell : {α β : Type} → Stage ω α β → Option α → List κ)
    (chain : Chain ω α γ) (slots : List (Option α)) :
    Interleaving (slots.map fun slot => chain.gather tell [slot]) (chain.gather tell slots) := by
  induction chain with
  | done => exact .done (by simp [gather])
  | stage first rest ih =>
    simp only [gather, List.flatMap_singleton, List.map_singleton]
    apply Interleaving.fronts _ _ _ []
    have later := ih (slots.map (slotResult first.result))
    rwa [List.map_map] at later

/-- A batch, under either policy. The first failure of the earliest stage ends the run, or all
failures are kept. -/
theorem run_through (chain : Chain ω α γ) (batch : Batch α) (session : Session ω) :
    ∃ world noted, (chain.through batch).run session =
        (outcome session.store.stopAtFirstError
            ⟨batch.slots.map chain.finish⟩ (chain.failures batch.slots),
          session.told world
            (keptOf session.store.stopAtFirstError (chain.failures batch.slots)) noted) ∧
      (session.store.stopAtFirstError = false → noted = chain.warnings batch.slots) := by
  induction chain generalizing session with
  | done => exact ⟨session.world, [], by simp [through, failures, gather, finish], fun _ => rfl⟩
  | stage first rest ih =>
    obtain ⟨middle, noted, run, -, all⟩ := first.run_mapM batch.slots session
    have taken := run_tryMap run
    rw [outcome_map] at taken
    rw [failures_stage, through]
    cases goes : outcome session.store.stopAtFirstError
        (Batch.mk (batch.slots.map (slotResult first.result)))
        (batch.slots.flatMap (slotFailures first.result)) with
    | error failure =>
      rw [goes] at taken
      obtain ⟨ends, kept⟩ := outcome_append_of_error goes
        (Batch.mk (batch.slots.map (stage first rest).finish))
        (rest.failures (batch.slots.map (slotResult first.result)))
      refine ⟨middle, noted, ?_, fun keeps => ?_⟩
      · rw [Step.run_bind_error taken, ends, kept]
      · rw [keeps] at goes
        cases goes
    | ok output =>
      rw [goes] at taken
      obtain ⟨rfl, same, kept⟩ := outcome_append_of_ok goes
        (Batch.mk (batch.slots.map (stage first rest).finish))
        (rest.failures (batch.slots.map (slotResult first.result)))
      obtain ⟨world, late, later, allLate⟩ :=
        ih ⟨batch.slots.map (slotResult first.result)⟩ (session.told middle _ _)
      refine ⟨world, noted ++ late, ?_, fun keeps => ?_⟩
      · rw [Step.run_bind_ok taken, later, same, kept, Session.told_told, Session.policy_told,
          List.map_map]
        rfl
      · rw [all (.inl keeps), allLate keeps]
        rfl

/-- The first failure of a batch is that of the earliest stage in which a slot fails, and in that
stage that of the first slot. -/
theorem first_failure (chain : Chain ω α γ) (slots : List (Option α)) {failure : Failure}
    {more : List Failure} (fails : chain.failures slots = failure :: more) :
    ∃ number before slot after, slots = before ++ slot :: after ∧
      (∀ other ∈ slots, (chain.upTo number).2.failures [other] = []) ∧
      (∀ other ∈ before, (chain.upTo (number + 1)).2.failures [other] = []) ∧
      (chain.upTo (number + 1)).2.failures [slot] = [failure] ∧
      chain.failures [slot] = [failure] := by
  induction chain with
  | done => cases fails
  | stage first rest ih =>
    rw [failures_stage] at fails
    cases here : slots.flatMap (slotFailures first.result) with
    | cons head others =>
      rw [here, List.cons_append] at fails
      obtain ⟨rfl, -⟩ := List.cons.inj fails
      obtain ⟨before, slot, after, rfl, front, own, emptied⟩ := first_slot here
      refine ⟨0, before, slot, after, rfl, fun _ _ => rfl, fun other member => ?_, ?_, ?_⟩
      · simp [upTo, failures_singleton, front other member]
      · simp [upTo, failures_singleton, own]
      · simp [failures_singleton, own, emptied, failures_none]
    | nil =>
      -- No slot fails in the first stage, so the failure is that of a later one.
      rw [here, List.nil_append] at fails
      have silent : ∀ other ∈ slots, slotFailures first.result other = [] :=
        List.flatMap_eq_nil_iff.mp here
      obtain ⟨number, before, slot, after, split, early, front, own, whole⟩ := ih _ fails
      obtain ⟨before, slot, after, rfl, rfl, rfl⟩ := exists_split_of_map split
      refine ⟨number + 1, before, slot, after, rfl, fun other member => ?_,
        fun other member => ?_, ?_, ?_⟩
      · simp [upTo, failures_singleton, silent other member,
          early _ (List.mem_map_of_mem member)]
      · simp [upTo, failures_singleton, silent other (List.mem_append_left _ member),
          front _ (List.mem_map_of_mem member)]
      · simp [upTo, failures_singleton, silent slot (by simp), own]
      · simp [failures_singleton, silent slot (by simp), whole]

theorem becomes_passage (chain : Chain ω α γ) (slot : Option α) :
    chain.Becomes slot (chain.passage slot) := by
  intro session keeps
  obtain ⟨world, noted, run, all⟩ := chain.run_through ⟨[slot]⟩ session
  refine ⟨world, run.trans ?_⟩
  rw [all keeps, keeps]
  rfl

section Stop

variable {chain : Chain ω α γ} {slot : Option α} {failure : Failure} {session : Session ω}

theorem run_through_of_stop (chain : Chain ω α γ) (batch : Batch α)
    (stops : session.store.stopAtFirstError = true) :
    ((chain.through batch).run session).1 =
      stopped ⟨batch.slots.map chain.finish⟩ (chain.failures batch.slots) := by
  obtain ⟨world, noted, run, -⟩ := chain.run_through batch session
  rw [run, stops]
  rfl

theorem fails_of_failures (own : chain.failures [slot] = [failure]) : chain.Fails slot failure := by
  intro session stops
  rw [chain.run_through_of_stop ⟨[slot]⟩ stops, own]
  rfl

theorem passes_of_failures (silent : chain.failures [slot] = []) : chain.Passes slot := by
  intro session stops
  rw [chain.run_through_of_stop ⟨[slot]⟩ stops, silent]
  exact ⟨_, rfl⟩

theorem Fails.failures_ne_nil (fails : chain.Fails slot failure)
    (stops : session.store.stopAtFirstError = true) : chain.failures [slot] ≠ [] := by
  intro silent
  obtain ⟨output, passes⟩ := passes_of_failures silent session stops
  rw [fails session stops] at passes
  cases passes

/-- Whose failure it is that ends the run of a batch. -/
theorem stopped_at (chain : Chain ω α γ) (batch : Batch α)
    (stops : session.store.stopAtFirstError = true)
    (failed : ((chain.through batch).run session).1 = .error failure) :
    ∃ number before slot after, batch.slots = before ++ slot :: after ∧
      (∀ other ∈ batch.slots, (chain.upTo number).2.Passes other) ∧
      (∀ other ∈ before, (chain.upTo (number + 1)).2.Passes other) ∧
      (chain.upTo (number + 1)).2.Fails slot failure ∧ chain.Fails slot failure := by
  rw [chain.run_through_of_stop batch stops] at failed
  cases fails : chain.failures batch.slots with
  | nil =>
    rw [fails] at failed
    cases failed
  | cons first more =>
    rw [fails] at failed
    cases failed
    obtain ⟨number, before, slot, after, split, early, front, own, whole⟩ :=
      chain.first_failure batch.slots fails
    exact ⟨number, before, slot, after, split,
      fun other member => passes_of_failures (early other member),
      fun other member => passes_of_failures (front other member),
      fails_of_failures own, fails_of_failures whole⟩

/-- A failure ends the run of a batch exactly if one ends the run of one of its slots. -/
theorem stops_iff (chain : Chain ω α γ) (batch : Batch α)
    (stops : session.store.stopAtFirstError = true) :
    (∃ failure, ((chain.through batch).run session).1 = .error failure) ↔
      ∃ slot ∈ batch.slots, ∃ failure, chain.Fails slot failure := by
  constructor
  · rintro ⟨failure, failed⟩
    obtain ⟨_, before, slot, after, split, -, -, -, alone⟩ := chain.stopped_at batch stops failed
    exact ⟨slot, by rw [split]; simp, failure, alone⟩
  · rintro ⟨slot, member, failure, alone⟩
    have told : chain.failures batch.slots ≠ [] := by
      intro silent
      have parts : (chain.failures batch.slots).Perm
          (batch.slots.map fun slot => chain.failures [slot]).flatten :=
        (chain.gather_interleaved _ batch.slots).perm
      rw [silent, List.nil_perm, List.flatten_eq_nil_iff] at parts
      exact alone.failures_ne_nil stops (parts _ (List.mem_map_of_mem member))
    rw [chain.run_through_of_stop batch stops]
    cases fails : chain.failures batch.slots with
    | nil => exact absurd fails told
    | cons first more => exact ⟨first, rfl⟩

end Stop

/-- A batch goes through the stages slot by slot as each of its slots does alone. A slot is at most
one error, exactly if it was filled and is empty in the end. If failures are kept, the errors and
the warnings are those of the slots alone, up to their order. If a failure ends the run, then
exactly if one ends the run of a slot alone, and it is that of the first of the slots that fail in
the earliest stage in which one does. -/
theorem through_apart (chain : Chain ω α γ) (batch : Batch α) (session : Session ω) :
    (∀ slot, chain.Becomes slot (chain.passage slot) ∧
      (chain.passage slot).errors.length ≤ 1 ∧
      ((chain.passage slot).errors ≠ [] ↔
        slot.isSome = true ∧ (chain.passage slot).slot = none)) ∧
    (session.store.stopAtFirstError = false → ∃ world errors warnings,
      (chain.through batch).run session =
        (.ok ⟨batch.slots.map fun slot => (chain.passage slot).slot⟩,
          session.told world errors warnings) ∧
      errors.Perm (batch.slots.flatMap fun slot => (chain.passage slot).errors) ∧
      warnings.Perm (batch.slots.flatMap fun slot => (chain.passage slot).warnings)) ∧
    (session.store.stopAtFirstError = true →
      ((∃ failure, ((chain.through batch).run session).1 = .error failure) ↔
        ∃ slot ∈ batch.slots, ∃ failure, chain.Fails slot failure) ∧
      ∀ failure, ((chain.through batch).run session).1 = .error failure →
        ∃ number before slot after, batch.slots = before ++ slot :: after ∧
          (∀ other ∈ batch.slots, (chain.upTo number).2.Passes other) ∧
          (∀ other ∈ before, (chain.upTo (number + 1)).2.Passes other) ∧
          (chain.upTo (number + 1)).2.Fails slot failure ∧ chain.Fails slot failure) := by
  refine ⟨fun slot => ⟨chain.becomes_passage slot, chain.passage_errors slot⟩, fun keeps => ?_,
    fun stops => ⟨chain.stops_iff batch stops, fun failure => chain.stopped_at batch stops⟩⟩
  obtain ⟨world, noted, run, all⟩ := chain.run_through batch session
  rw [keeps] at run
  refine ⟨world, _, noted, run, (chain.gather_interleaved _ batch.slots).perm, ?_⟩
  rw [all keeps]
  exact (chain.gather_interleaved _ batch.slots).perm

/-- The second element fails in the first stage, and the first element in the second stage: the
run ends with the failure of the second element. -/
example (early late : Failure) :
    let refusing (refused : Nat) (failure : Failure) : Stage Unit Nat Nat :=
      { act := fun value => Step.ofExcept (if value = refused then .error failure else .ok value)
        result := fun value => if value = refused then .error failure else .ok value
        noted := fun _ => []
        answers := fun _ session => ⟨(), by simp [Session.told, Step.ofExcept, Step.run]⟩ }
    ((through (.stage (refusing 1 early) (.stage (refusing 0 late) .done)) (.ofList [0, 1])).run
      ⟨(), .empty true⟩).1 = .error early := rfl

end Chain

end StagedBuild.Batch
