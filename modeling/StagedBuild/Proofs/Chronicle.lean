import StagedBuild.Proofs.Reply

/-!
# Chronicles

A chronicle is a list of calls in which each has its place: it opens a stage, or it is one step
for one input. What an input was answered (`answers`) and which inputs failed (`charges`) can be
read off it, and whether its replies are those of a pipeline (`Faithful`).
-/

namespace StagedBuild.Pipeline

/-- Where a call of a run stands. The steps of an input are counted over all stages. -/
inductive Place where
  | opening (stage : Nat)
  | visit (stage input step : Nat)
  deriving DecidableEq, Repr

namespace Place

/-- The stages in order; in a stage its opening, then the inputs in order; for an input the steps
in order. -/
def Before : Place → Place → Prop
  | .opening stage, .opening later => stage < later
  | .opening stage, .visit later _ _ => stage ≤ later
  | .visit stage _ _, .opening later => stage < later
  | .visit stage input step, .visit later input' step' =>
    stage < later ∨ stage = later ∧ (input < input' ∨ input = input' ∧ step < step')

instance : DecidableRel Before := fun a b => by
  cases a <;> cases b <;> unfold Before <;> infer_instance

theorem Before.irrefl (place : Place) : ¬ place.Before place := by
  cases place <;> simp [Before]

theorem Before.asymm {a b : Place} (h : a.Before b) : ¬ b.Before a := by
  cases a <;> cases b <;> simp only [Before] at h ⊢ <;> omega

/-- The input that a place is about. -/
def input? : Place → Option Nat
  | .opening _ => none
  | .visit _ input _ => some input

end Place

/-- A call at its place, with the reply to it. -/
structure Entry (δ τ : Type) where
  place : Place
  call : Call δ τ
  reply : Except Failure (Reply δ τ)

/-- The calls of a run at their places, oldest first. -/
abbrev Chronicle (δ τ : Type) := List (Entry δ τ)

namespace Entry

variable {δ τ : Type} (entry : Entry δ τ)

/-- The answer that the entry is for an input. -/
def answer? (input : Nat) : Option (Reply δ τ) :=
  if entry.place.input? = some input then entry.reply.toOption else none

/-- The input that failed here, and how. -/
def charge? : Option (Nat × Failure) :=
  match entry.place, entry.reply with
  | .visit _ input _, .error failure => some (input, failure)
  | _, _ => none

end Entry

namespace Chronicle

variable {δ τ : Type}

/-- The calls alone. -/
def calls (told : Chronicle δ τ) : List (Call δ τ) := told.map Entry.call

/-- The answers that an input got, in order. -/
def answers (told : Chronicle δ τ) (input : Nat) : List (Reply δ τ) :=
  told.filterMap fun entry => entry.answer? input

/-- The failures, in order, each with the input that it is charged to. -/
def charges (told : Chronicle δ τ) : List (Nat × Failure) :=
  told.filterMap Entry.charge?

/-- How often an input is charged with a failure. -/
def chargeCount (told : Chronicle δ τ) (input : Nat) : Nat :=
  (told.charges.map Prod.fst).count input

/-- The part that stands before a place. -/
def before (told : Chronicle δ τ) (place : Place) : Chronicle δ τ :=
  told.filter fun entry => entry.place.Before place

/-- There is a call at the place. -/
def Has (told : Chronicle δ τ) (place : Place) : Prop :=
  ∃ entry ∈ told, entry.place = place

/-- The step of the input was made and succeeded. -/
def Succeeds (told : Chronicle δ τ) (input step : Nat) : Prop :=
  ∃ entry ∈ told, (∃ stage, entry.place = .visit stage input step) ∧
    ∃ answer, entry.reply = .ok answer

/-- Every reply is the one that is given after the calls before it. -/
def Faithful (pipeline : Pipeline δ τ) (start : History δ τ) (told : Chronicle δ τ) : Prop :=
  ∀ earlier entry later, told = earlier ++ entry :: later →
    entry.reply = pipeline.reply (start ++ calls earlier) entry.call

/-- Every call for an input is the one that follows from the answers it got before. -/
def Follows (route : Nat → List (Reply δ τ) → Option (Call δ τ)) (told : Chronicle δ τ) : Prop :=
  ∀ earlier entry later, told = earlier ++ entry :: later →
    ∀ stage input step, entry.place = .visit stage input step →
      (answers earlier input).length = step ∧
        route input (answers earlier input) = some entry.call

@[simp] theorem calls_append (told more : Chronicle δ τ) :
    calls (told ++ more) = told.calls ++ more.calls := List.map_append

@[simp] theorem calls_singleton (entry : Entry δ τ) : calls [entry] = [entry.call] := rfl

@[simp] theorem answers_append (told more : Chronicle δ τ) (input : Nat) :
    answers (told ++ more) input = told.answers input ++ more.answers input :=
  List.filterMap_append

@[simp] theorem charges_append (told more : Chronicle δ τ) :
    charges (told ++ more) = told.charges ++ more.charges := List.filterMap_append

@[simp] theorem chargeCount_append (told more : Chronicle δ τ) (input : Nat) :
    chargeCount (told ++ more) input = told.chargeCount input + more.chargeCount input := by
  simp [chargeCount]

/-- A call that is not about an input leaves it alone. -/
theorem answers_other {entry : Entry δ τ} {input : Nat} (other : entry.place.input? ≠ some input) :
    answers [entry] input = [] := by
  simp [answers, Entry.answer?, other]

theorem chargeCount_other {entry : Entry δ τ} {input : Nat}
    (other : entry.place.input? ≠ some input) : chargeCount [entry] input = 0 := by
  obtain ⟨place, call, reply⟩ := entry
  cases place with
  | opening stage => rfl
  | visit stage visited step =>
    have differs : visited ≠ input := fun same => other (congrArg some same)
    cases reply with
    | ok answer => rfl
    | error failure => simp [chargeCount, charges, Entry.charge?, differs]

/-- An input is charged where a call for it fails. -/
theorem mem_charged {told : Chronicle δ τ} {input : Nat} :
    input ∈ told.charges.map Prod.fst ↔
      ∃ entry ∈ told, entry.place.input? = some input ∧
        ∃ failure, entry.reply = .error failure := by
  have charged : ∀ (entry : Entry δ τ) (failure : Failure),
      entry.charge? = some (input, failure) ↔
        entry.place.input? = some input ∧ entry.reply = .error failure := by
    intro ⟨place, call, reply⟩ failure
    cases place <;> cases reply <;> simp [Entry.charge?, Place.input?]
  simp only [charges, List.mem_map, List.mem_filterMap, Prod.exists, exists_and_right,
    exists_eq_right, charged]
  constructor
  · rintro ⟨failure, entry, member, about, failed⟩
    exact ⟨entry, member, about, failure, failed⟩
  · rintro ⟨entry, member, about, failure, failed⟩
    exact ⟨failure, entry, member, about, failed⟩

theorem succeeds_concat (told : Chronicle δ τ) (entry : Entry δ τ) (input step : Nat) :
    Succeeds (told ++ [entry]) input step ↔ told.Succeeds input step ∨
      (∃ stage, entry.place = .visit stage input step) ∧ ∃ answer, entry.reply = .ok answer := by
  simp only [Succeeds, List.mem_append, List.mem_singleton, or_and_right, exists_or, exists_eq_left]

section Single

variable (stage input step other : Nat) (call : Call δ τ)

@[simp] theorem answers_opening (reply : Except Failure (Reply δ τ)) :
    answers [⟨.opening stage, call, reply⟩] other = [] := rfl

@[simp] theorem charges_opening (reply : Except Failure (Reply δ τ)) :
    charges [⟨.opening stage, call, reply⟩] = [] := rfl

@[simp] theorem answers_success (answer : Reply δ τ) :
    answers [⟨.visit stage input step, call, .ok answer⟩] other =
      if input = other then [answer] else [] := by
  by_cases same : input = other <;>
    simp [answers, Entry.answer?, Place.input?, same, Except.toOption]

@[simp] theorem charges_success (answer : Reply δ τ) :
    charges [⟨.visit stage input step, call, .ok answer⟩] = [] := rfl

@[simp] theorem answers_failure (failure : Failure) :
    answers [⟨.visit stage input step, call, .error failure⟩] other = ([] : List (Reply δ τ)) := by
  simp [answers, Entry.answer?, Except.toOption]

@[simp] theorem charges_failure (failure : Failure) :
    charges [⟨.visit stage input step, call, .error failure⟩] = [(input, failure)] := rfl

end Single

end Chronicle

end StagedBuild.Pipeline
