import StagedBuild.Step

/-!
# Batches

The results of one stage for all inputs of a run. Slot `i` always belongs to input `i`, and is
empty once that input has failed. `tryMap` takes a batch through the next stage.
-/

namespace StagedBuild

/-- One slot for each input, empty for an input that failed. -/
structure Batch (α : Type) where
  slots : List (Option α)
  deriving DecidableEq, Repr

namespace Batch

variable {α β ω : Type}

instance : Inhabited (Batch α) := ⟨⟨[]⟩⟩

/-- A batch in which every input succeeded. -/
def ofList (values : List α) : Batch α :=
  ⟨values.map some⟩

/-- How many inputs there are, failed ones included. -/
def size (batch : Batch α) : Nat := batch.slots.length

/-- There is no input at all. -/
def isEmpty (batch : Batch α) : Bool := batch.slots.isEmpty

/-- The result for an input, if there is such an input and it did not fail. -/
def get? (batch : Batch α) (index : Nat) : Option α :=
  (batch.slots[index]?).join

/-- The results of the inputs that did not fail, in order. -/
def successes (batch : Batch α) : List α :=
  batch.slots.filterMap id

/-- The inputs that failed, in order. -/
def failedIndices (batch : Batch α) : List Nat :=
  (batch.slots.zipIdx.filter fun (slot, _) => slot.isNone).map fun (_, index) => index

/-- Takes one slot through a stage: an empty slot stays empty, without a call. -/
def trySlot (stage : α → Step ω β) : Option α → Step ω (Option β)
  | none => pure none
  | some value => (stage value).attempt

/-- Takes every slot through a stage, in order. An input that fails leaves its slot empty, unless
the store stops at the first error: then the failure ends the whole. -/
def tryMap (batch : Batch α) (stage : α → Step ω β) : Step ω (Batch β) := do
  return ⟨← batch.slots.mapM (trySlot stage)⟩

theorem run_tryMap {batch : Batch α} {stage : α → Step ω β} {session after : Session ω}
    {result : Except Failure (List (Option β))}
    (run : (batch.slots.mapM (trySlot stage)).run session = (result, after)) :
    (batch.tryMap stage).run session = (result.map Batch.mk, after) := by
  cases result with
  | ok slots => exact Step.run_bind_ok run
  | error failure => exact Step.run_bind_error run

@[simp] theorem slots_ofList (values : List α) : (ofList values).slots = values.map some := rfl

theorem size_ofList (values : List α) : (ofList values).size = values.length := by
  simp [size]

end Batch

/-- A lone input is built as the program's entry unit. -/
def isSingle (inputs : List α) : Bool :=
  inputs.length == 1

end StagedBuild
