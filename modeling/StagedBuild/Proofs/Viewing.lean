import Mathlib.Data.List.Basic
import StagedBuild.Proofs.Visiting

/-!
# What the views of a batch tell

A batch can be looked at by index, through the results of the inputs that did not fail, and through
the indices of those that did. The views fit together: from the failed indices, the results and the
number of inputs the slots can be put together again (`restore`).

* `Views`: what the views of a batch say of each other. All of it is read off what the single
  indices hold (`slots_eq`, `failedIndices_eq`, `successes_eq`).
* `Leads`: a batch that came from another by stages in a row, whatever the stages do to their
  sessions. What a single stage keeps is kept along the row (`Leads.keeps`).
-/

namespace StagedBuild.Batch

variable {ω κ α β : Type}

/-- Slots from the views of a batch: the slot of a failed index is empty, and the other indices get
the values, in order. -/
def restore (size : Nat) (failed : List Nat) (values : List α) : List (Option α) :=
  let others := (List.range size).filter fun index => index ∉ failed
  (List.range size).map fun index => (others.zip values).lookup index

/-- What the views of a batch say of each other. -/
structure Views (batch : Batch α) : Prop where
  increasing : batch.failedIndices.Pairwise (· < ·)
  failed_iff : ∀ index, index ∈ batch.failedIndices ↔
    index < batch.size ∧ batch.get? index = none
  successes : batch.successes = (List.range batch.size).filterMap batch.get?
  count : batch.successes.length + batch.failedIndices.length = batch.size
  restored : restore batch.size batch.failedIndices batch.successes = batch.slots
  beyond : ∀ index, batch.size ≤ index → batch.get? index = none

/-- The first batch led to the second by stages in a row that all went through, each taken in a
session of its own. -/
inductive Leads : {α β : Type} → Batch α → Batch β → Prop
  | refl {α : Type} (batch : Batch α) : Leads batch batch
  | stage {ω α β γ : Type} {batch : Batch α} {middle : Batch β} {output : Batch γ}
    {stage : β → Step ω γ} {session after : Session ω} (leads : Leads batch middle)
    (run : (middle.tryMap stage).run session = (.ok output, after)) : Leads batch output

section Keys

variable (f : κ → Option α)

/-- Each key has a value or none. -/
theorem length_filterMap_add_filter (keys : List κ) :
    (keys.filterMap f).length + (keys.filter fun key => (f key).isNone).length = keys.length := by
  induction keys with
  | nil => rfl
  | cons key keys ih =>
    cases value : f key with
    | none => simp [value, ← ih, Nat.add_assoc]
    | some _ => simp [value, ← ih, Nat.add_right_comm]

/-- The values in order, beside the keys that have one: each key has its own value beside it. -/
theorem zip_filterMap (keys : List κ) :
    (keys.filter fun key => (f key).isSome).zip (keys.filterMap f) =
      keys.filterMap fun key => (f key).map (Prod.mk key) := by
  induction keys with
  | nil => rfl
  | cons key keys ih => cases value : f key <;> simp [value, ih]

theorem lookup_filterMap [DecidableEq κ] (keys : List κ) (key : κ) :
    (keys.filterMap fun key => (f key).map (Prod.mk key)).lookup key =
      if key ∈ keys then f key else none := by
  induction keys with
  | nil => rfl
  | cons first keys ih =>
    by_cases same : key = first
    · subst same
      cases value : f key with
      | none => simp [value, ih]
      | some _ => simp [value]
    · have differs : (key == first) = false := beq_false_of_ne same
      cases value : f first with
      | none => simp [value, ih, same]
      | some _ => simp [value, ih, same, List.lookup_cons, differs]

end Keys

section Views

variable (batch : Batch α)

theorem get?_of_size_le {index : Nat} (beyond : batch.size ≤ index) : batch.get? index = none := by
  rw [get?, List.getElem?_eq_none beyond, Option.join_none]

theorem slots_eq : batch.slots = (List.range batch.size).map batch.get? := by
  apply List.ext_getElem
  · simp [size]
  · intro index inside inside'
    simp [get?, inside]

theorem zipIdx_slots :
    batch.slots.zipIdx = (List.range batch.size).map fun index => (batch.get? index, index) := by
  apply List.ext_getElem
  · simp [size]
  · intro index inside inside'
    rw [List.length_zipIdx] at inside
    simp [get?, inside]

theorem failedIndices_eq :
    batch.failedIndices = (List.range batch.size).filter fun index => (batch.get? index).isNone := by
  rw [failedIndices, zipIdx_slots, List.filter_map, List.map_map]
  exact List.map_id _

theorem successes_eq : batch.successes = (List.range batch.size).filterMap batch.get? := by
  conv_lhs => rw [successes, slots_eq, List.filterMap_map]
  rfl

theorem mem_failedIndices_iff (index : Nat) :
    index ∈ batch.failedIndices ↔ index < batch.size ∧ batch.get? index = none := by
  rw [failedIndices_eq, List.mem_filter, List.mem_range, Option.isNone_iff_eq_none]

theorem restore_views :
    restore batch.size batch.failedIndices batch.successes = batch.slots := by
  -- The indices that did not fail are those with a value, so each gets its own.
  have others : (List.range batch.size).filter (fun index => index ∉ batch.failedIndices) =
      (List.range batch.size).filter fun index => (batch.get? index).isSome := by
    apply List.filter_congr
    intro index member
    have inside : index < batch.size := List.mem_range.mp member
    cases value : batch.get? index <;> simp [mem_failedIndices_iff, inside, value]
  rw [restore, others, successes_eq, zip_filterMap]
  conv_rhs => rw [slots_eq]
  apply List.map_congr_left
  intro index member
  rw [lookup_filterMap, if_pos member]

theorem views : Views batch where
  increasing := by
    rw [failedIndices_eq]
    exact List.pairwise_lt_range.filter _
  failed_iff := batch.mem_failedIndices_iff
  successes := batch.successes_eq
  count := by
    rw [successes_eq, failedIndices_eq, length_filterMap_add_filter, List.length_range]
  restored := batch.restore_views
  beyond index := batch.get?_of_size_le

end Views

section Leads

variable {batch : Batch α} {output : Batch β} {stage : α → Step ω β} {session after : Session ω}

/-- A stage that goes through keeps every slot, and a slot that was empty stays so. -/
theorem tryMap_keeps (run : (batch.tryMap stage).run session = (.ok output, after)) :
    output.size = batch.size ∧ batch.failedIndices ⊆ output.failedIndices := by
  obtain ⟨visits, result, last, mapped, -, course⟩ := mapM_course stage batch.slots session []
  have same := (run_tryMap mapped).symm.trans run
  -- A fatal call would have ended the stage with its failure.
  have mild : ∀ visit ∈ visits, visit.fatal? = none := by
    intro visit member
    obtain ⟨earlier, later, split⟩ := List.append_of_mem member
    cases fatal : visit.fatal? with
    | none => rfl
    | some failure =>
      rw [(course.ended earlier visit later failure split fatal).2.1] at same
      cases same
  obtain ⟨slots, gives, through⟩ := course.through mild
  rw [gives] at same
  cases same
  refine ⟨through.size, fun index failed => ?_⟩
  rw [mem_failedIndices_iff] at failed ⊢
  obtain ⟨inside, empty⟩ := failed
  have slot : batch.slots[index]? = some none := by
    rw [get?, List.getElem?_eq_getElem inside, Option.join_some] at empty
    rw [List.getElem?_eq_getElem inside, empty]
  constructor
  · rw [size, through.size]
    exact inside
  · rw [get?, through.empty index slot, Option.join_some]

/-- So does a row of stages. -/
theorem Leads.keeps {later : Batch β} (leads : Leads batch later) :
    later.size = batch.size ∧ batch.failedIndices ⊆ later.failedIndices := by
  induction leads with
  | refl batch => exact ⟨rfl, List.Subset.refl _⟩
  | stage leads run ih =>
    obtain ⟨size, failed⟩ := tryMap_keeps run
    exact ⟨size.trans ih.1, List.Subset.trans ih.2 failed⟩

end Leads

/-- The views of a batch that came from values by stages in a row. The failed indices are, in
increasing order, those that hold nothing, the successes are what the other indices hold, in order,
and both together give the slots back. There are as many slots as there were values, and wherever
the batch leads, a failed index stays failed. -/
theorem leads_views {values : List α} {batch : Batch β} (leads : Leads (ofList values) batch) :
    batch.Views ∧ batch.size = values.length ∧
      ∀ {γ : Type} (later : Batch γ), Leads batch later →
        later.size = values.length ∧ batch.failedIndices ⊆ later.failedIndices := by
  have same : batch.size = values.length := leads.keeps.1.trans (size_ofList values)
  refine ⟨batch.views, same, fun later onward => ?_⟩
  exact ⟨onward.keeps.1.trans same, onward.keeps.2⟩

/-- The failure of a number that is odd. -/
def noHalf : Failure :=
  .translate "odd" (.error "no half" ⟨"sample", 1, "halve"⟩)

/-- Half of a number, if it is even. -/
def halve (number : Nat) : Step Unit Nat :=
  if number % 2 = 0 then pure (number / 2) else .fail noHalf

/-- Four numbers are halved twice: two fail the first time, and one more the second time. -/
theorem leads_views_halves :
    let halved : Batch Nat := ⟨[some 1, none, some 2, none]⟩
    let quartered : Batch Nat := ⟨[none, none, some 1, none]⟩
    Leads (ofList [2, 3, 4, 5]) halved ∧ halved.Views ∧ halved.size = 4 ∧
      halved.failedIndices = [1, 3] ∧ halved.successes = [1, 2] ∧
      Leads halved quartered ∧ quartered.size = 4 ∧
      halved.failedIndices ⊆ quartered.failedIndices := by
  intro halved quartered
  have firstRun : ((ofList [2, 3, 4, 5]).tryMap halve).run ⟨(), Store.empty false⟩ =
      (.ok halved, ⟨(), ⟨[noHalf, noHalf], [], false⟩⟩) := rfl
  have secondRun : (halved.tryMap halve).run ⟨(), Store.empty false⟩ =
      (.ok quartered, ⟨(), ⟨[noHalf], [], false⟩⟩) := rfl
  have first : Leads (ofList [2, 3, 4, 5]) halved := .stage (.refl _) firstRun
  have second : Leads halved quartered := .stage (.refl _) secondRun
  obtain ⟨views, size, onward⟩ := leads_views first
  exact ⟨first, views, size, rfl, rfl, second, onward quartered second⟩

end StagedBuild.Batch
