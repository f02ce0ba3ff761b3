import Mathlib.Data.List.Basic
import StagedBuild.Proofs.Chronicle

/-!
# Itineraries

`Itinerary.tell` writes a chronicle by going through an agenda of places in order and asking at
each place for the call that is due there: the call that follows from the answers that the same
input has got so far, unless a failure has ended the run.

Main statements, for an agenda in order: the chronicle is in the order of the agenda
(`pairwise_tell`), what it says before a place is the chronicle of the agenda before that place
(`before_tell`), it has exactly the calls that are due (`has_tell_iff`, `regular_tell`), and an
input has made its first steps exactly as far as it has answers (`succeeds_tell_iff`).
-/

namespace StagedBuild.Pipeline

/-- How a run asks: what opens each stage, which call follows from the answers that an input has
got, and whether a failure ends the run. -/
structure Itinerary (δ τ : Type) where
  pipeline : Pipeline δ τ
  start : History δ τ
  stop : Bool
  line : Nat → String
  route : Nat → List (Reply δ τ) → Option (Call δ τ)

namespace Itinerary

open Chronicle

variable {δ τ : Type} (itinerary : Itinerary δ τ)

/-- The call that is due at a place. An input that failed has fewer answers than the steps it
would have made by now. -/
def due (told : Chronicle δ τ) : Place → Option (Call δ τ)
  | .opening stage => some (.emit itinerary.pipeline.log (itinerary.line stage))
  | .visit _ input step =>
    if (told.answers input).length = step then itinerary.route input (told.answers input)
    else none

theorem due_visit {told : Chronicle δ τ} {stage input step : Nat} {call : Call δ τ}
    (due : itinerary.due told (.visit stage input step) = some call) :
    (told.answers input).length = step ∧
      itinerary.route input (told.answers input) = some call := by
  simp only [Itinerary.due] at due
  by_cases counted : (told.answers input).length = step
  · rw [if_pos counted] at due
    exact ⟨counted, due⟩
  · rw [if_neg counted] at due
    cases due

/-- The call at a place with its reply. -/
def entry (told : Chronicle δ τ) (place : Place) (call : Call δ τ) : Entry δ τ :=
  ⟨place, call, itinerary.pipeline.reply (itinerary.start ++ told.calls) call⟩

/-- A failure has ended the run. -/
def Halted (told : Chronicle δ τ) : Prop :=
  itinerary.stop = true ∧ told.charges ≠ []

instance (told : Chronicle δ τ) : Decidable (itinerary.Halted told) :=
  decidable_of_iff (itinerary.stop = true ∧ ¬ told.charges.isEmpty) (by simp [Halted])

/-- Goes to the next place. -/
def advance (told : Chronicle δ τ) (place : Place) : Chronicle δ τ :=
  if itinerary.Halted told then told
  else match itinerary.due told place with
    | none => told
    | some call => told ++ [itinerary.entry told place call]

/-- Goes through an agenda. -/
def tell (told : Chronicle δ τ) (agenda : List Place) : Chronicle δ τ :=
  agenda.foldl itinerary.advance told

theorem tell_append (told : Chronicle δ τ) (agenda more : List Place) :
    itinerary.tell told (agenda ++ more) = itinerary.tell (itinerary.tell told agenda) more :=
  List.foldl_append

theorem tell_of_halted {told : Chronicle δ τ} (halted : itinerary.Halted told)
    (agenda : List Place) : itinerary.tell told agenda = told := by
  induction agenda with
  | nil => rfl
  | cons place agenda ih => rw [tell, List.foldl_cons, advance, if_pos halted]; exact ih

/-- Places where nothing is due are passed by. -/
theorem tell_of_idle {told : Chronicle δ τ} {agenda : List Place}
    (idle : ∀ place ∈ agenda, itinerary.due told place = none) :
    itinerary.tell told agenda = told := by
  induction agenda with
  | nil => rfl
  | cons place agenda ih =>
    have here : itinerary.advance told place = told := by
      simp [advance, idle place List.mem_cons_self]
    rw [tell, List.foldl_cons, here]
    exact ih fun later member => idle later (List.mem_cons_of_mem _ member)

/-- At a place either nothing happens or the call that is due is made. -/
theorem advance_cases (told : Chronicle δ τ) (place : Place) :
    itinerary.advance told place = told ∧
        ¬ (¬ itinerary.Halted told ∧ (itinerary.due told place).isSome) ∨
      ∃ call, itinerary.due told place = some call ∧ ¬ itinerary.Halted told ∧
        itinerary.advance told place = told ++ [itinerary.entry told place call] := by
  unfold advance
  by_cases halted : itinerary.Halted told
  · rw [if_pos halted]
    exact .inl ⟨rfl, fun free => free.1 halted⟩
  · rw [if_neg halted]
    cases found : itinerary.due told place with
    | none => exact .inl ⟨rfl, by simp⟩
    | some call => exact .inr ⟨call, rfl, halted, rfl⟩

/-- What is told stays told; what is new stands at places of the agenda. -/
theorem tell_eq_append (told : Chronicle δ τ) (agenda : List Place) :
    ∃ more, itinerary.tell told agenda = told ++ more ∧ ∀ entry ∈ more, entry.place ∈ agenda := by
  induction agenda generalizing told with
  | nil => exact ⟨[], by simp [tell], by simp⟩
  | cons place agenda ih =>
    obtain ⟨more, eq, places⟩ := ih (itinerary.advance told place)
    rw [tell, List.foldl_cons]
    rcases itinerary.advance_cases told place with ⟨same, _⟩ | ⟨call, _, _, made⟩
    · refine ⟨more, ?_, fun entry member => List.mem_cons_of_mem _ (places entry member)⟩
      rw [same] at eq ⊢
      exact eq
    · refine ⟨itinerary.entry told place call :: more, ?_, ?_⟩
      · rw [made] at eq ⊢
        rw [← List.append_cons] at eq
        exact eq
      · intro entry member
        rcases List.mem_cons.mp member with rfl | later
        · exact List.mem_cons_self
        · exact List.mem_cons_of_mem _ (places entry later)

theorem place_mem_of_mem_tell {agenda : List Place} {entry : Entry δ τ}
    (member : entry ∈ itinerary.tell [] agenda) : entry.place ∈ agenda := by
  obtain ⟨more, eq, places⟩ := itinerary.tell_eq_append [] agenda
  rw [eq, List.nil_append] at member
  exact places entry member

/-- What holds of a chronicle and is kept by every call that is due holds of all that is told. -/
theorem tell_induction (holds : Chronicle δ τ → Prop) {told : Chronicle δ τ} {agenda : List Place}
    (base : holds told)
    (step : ∀ told, ∀ place ∈ agenda, ∀ call, holds told → itinerary.due told place = some call →
      ¬ itinerary.Halted told → holds (told ++ [itinerary.entry told place call])) :
    holds (itinerary.tell told agenda) := by
  induction agenda generalizing told with
  | nil => exact base
  | cons place agenda ih =>
    rw [tell, List.foldl_cons]
    refine ih ?_ fun told later member => step told later (List.mem_cons_of_mem _ member)
    rcases itinerary.advance_cases told place with ⟨same, _⟩ | ⟨call, due, free, made⟩
    · rw [same]
      exact base
    · rw [made]
      exact step told place List.mem_cons_self call base due free

/-- Places that are not about an input, or where nothing can be due for it, leave it alone. -/
theorem tell_frame (told : Chronicle δ τ) {agenda : List Place} {input : Nat}
    (others : ∀ place ∈ agenda, place.input? = some input →
      ∀ told, itinerary.due told place = none) :
    (itinerary.tell told agenda).answers input = told.answers input ∧
      (itinerary.tell told agenda).chargeCount input = told.chargeCount input := by
  refine itinerary.tell_induction (fun after => after.answers input = told.answers input ∧
    after.chargeCount input = told.chargeCount input) ⟨rfl, rfl⟩ ?_
  intro after place member call ih due _
  have other : (itinerary.entry after place call).place.input? ≠ some input := by
    intro about
    rw [others place member about after] at due
    cases due
  rw [answers_append, chargeCount_append, answers_other other, chargeCount_other other,
    List.append_nil, Nat.add_zero]
  exact ih

/-- Every entry is the call that was due at its place, with its reply. -/
def Regular (told : Chronicle δ τ) : Prop :=
  ∀ earlier entry later, told = earlier ++ entry :: later →
    itinerary.due earlier entry.place = some entry.call ∧
      entry.reply = itinerary.pipeline.reply (itinerary.start ++ calls earlier) entry.call

theorem regular_tell (agenda : List Place) : itinerary.Regular (itinerary.tell [] agenda) := by
  refine itinerary.tell_induction _ (fun earlier entry later split => by simp at split) ?_
  intro told place _ call ih due _ earlier entry later split
  rcases List.append_eq_append_iff.mp split with ⟨more, rfl, last⟩ | ⟨more, eq, last⟩
  · cases more with
    | nil =>
      simp only [List.nil_append, List.cons.injEq] at last
      rw [← last.1, List.append_nil]
      exact ⟨due, rfl⟩
    | cons first more => simp at last
  · cases more with
    | nil =>
      simp only [List.nil_append, List.cons.injEq] at last
      rw [last.1, ← List.append_nil earlier, ← eq]
      exact ⟨due, rfl⟩
    | cons first more =>
      simp only [List.cons_append, List.cons.injEq] at last
      obtain ⟨rfl, _⟩ := last
      exact ih earlier _ more eq

theorem due_of_mem_tell {agenda : List Place} {entry : Entry δ τ}
    (member : entry ∈ itinerary.tell [] agenda) :
    ∃ earlier : Chronicle δ τ, itinerary.due earlier entry.place = some entry.call ∧
      entry.reply = itinerary.pipeline.reply (itinerary.start ++ earlier.calls) entry.call := by
  obtain ⟨earlier, later, split⟩ := List.append_of_mem member
  exact ⟨earlier, itinerary.regular_tell agenda earlier entry later split⟩

/-- What opens a stage is its line. -/
theorem line_tell {agenda : List Place} {entry : Entry δ τ} {stage : Nat}
    (member : entry ∈ itinerary.tell [] agenda) (here : entry.place = .opening stage) :
    entry.call = .emit itinerary.pipeline.log (itinerary.line stage) := by
  obtain ⟨earlier, due, _⟩ := itinerary.due_of_mem_tell member
  rw [here] at due
  exact (Option.some.inj due).symm

theorem faithful_tell (agenda : List Place) :
    Faithful itinerary.pipeline itinerary.start (itinerary.tell [] agenda) :=
  fun earlier entry later split => (itinerary.regular_tell agenda earlier entry later split).2

theorem follows_tell (agenda : List Place) :
    Follows itinerary.route (itinerary.tell [] agenda) := by
  intro earlier entry later split stage input step here
  have due := (itinerary.regular_tell agenda earlier entry later split).1
  rw [here] at due
  exact itinerary.due_visit due

/-- An agenda in order is told in order. -/
theorem pairwise_tell {told : Chronicle δ τ} {agenda : List Place}
    (sorted : (told.map Entry.place ++ agenda).Pairwise Place.Before) :
    ((itinerary.tell told agenda).map Entry.place).Pairwise Place.Before := by
  induction agenda generalizing told with
  | nil => simpa [tell] using sorted
  | cons place agenda ih =>
    rw [tell, List.foldl_cons]
    apply ih
    rcases itinerary.advance_cases told place with ⟨same, _⟩ | ⟨call, _, _, made⟩
    · rw [same]
      exact sorted.sublist ((List.sublist_cons_self place agenda).append_left _)
    · rw [made]
      simpa [entry] using sorted

/-- An agenda in order is told in three parts: before a place, at it, and after it. -/
theorem tell_split {earlier later : List Place} {place : Place}
    (sorted : (earlier ++ place :: later).Pairwise Place.Before) :
    ∃ more, itinerary.tell [] (earlier ++ place :: later) =
        itinerary.advance (itinerary.tell [] earlier) place ++ more ∧
      (∀ entry ∈ itinerary.tell [] earlier, entry.place.Before place) ∧
      ∀ entry ∈ more, place.Before entry.place := by
  obtain ⟨_, rest, order⟩ := List.pairwise_append.mp sorted
  obtain ⟨past, eqPast, pastPlaces⟩ := itinerary.tell_eq_append [] earlier
  obtain ⟨more, eq, morePlaces⟩ :=
    itinerary.tell_eq_append (itinerary.advance (itinerary.tell [] earlier) place) later
  refine ⟨more, ?_, ?_, ?_⟩
  · rw [tell_append]
    exact eq
  · intro entry member
    rw [eqPast, List.nil_append] at member
    exact order _ (pastPlaces entry member) _ List.mem_cons_self
  · intro entry member
    exact (List.pairwise_cons.mp rest).1 _ (morePlaces entry member)

/-- What is told before a place of the agenda is told by the agenda before that place. -/
theorem before_tell {earlier later : List Place} {place : Place}
    (sorted : (earlier ++ place :: later).Pairwise Place.Before) :
    (itinerary.tell [] (earlier ++ place :: later)).before place = itinerary.tell [] earlier := by
  obtain ⟨more, eq, past, future⟩ := itinerary.tell_split sorted
  have pastKept : (itinerary.tell [] earlier).before place = itinerary.tell [] earlier :=
    List.filter_eq_self.mpr (by simpa using past)
  have futureDropped : before more place = [] :=
    List.filter_eq_nil_iff.mpr (by simpa using fun entry member => (future entry member).asymm)
  rw [before] at pastKept futureDropped
  rw [eq, before, List.filter_append, futureDropped, List.append_nil]
  rcases itinerary.advance_cases (itinerary.tell [] earlier) place with
    ⟨same, _⟩ | ⟨call, _, _, made⟩
  · rw [same, pastKept]
  · rw [made, List.filter_append, pastKept]
    simp [entry, Place.Before.irrefl]

/-- The place of the agenda has the call that was due there, unless a failure had ended the run. -/
theorem has_tell_iff {earlier later : List Place} {place : Place}
    (sorted : (earlier ++ place :: later).Pairwise Place.Before) :
    (itinerary.tell [] (earlier ++ place :: later)).Has place ↔
      ¬ itinerary.Halted (itinerary.tell [] earlier) ∧
        (itinerary.due (itinerary.tell [] earlier) place).isSome := by
  obtain ⟨more, eq, past, future⟩ := itinerary.tell_split sorted
  rw [eq]
  rcases itinerary.advance_cases (itinerary.tell [] earlier) place with
    ⟨same, idle⟩ | ⟨call, due, free, made⟩
  · refine iff_of_false ?_ idle
    rintro ⟨entry, member, rfl⟩
    rw [same] at member
    rcases List.mem_append.mp member with member | member
    · exact Place.Before.irrefl _ (past entry member)
    · exact Place.Before.irrefl _ (future entry member)
  · refine iff_of_true ⟨itinerary.entry (itinerary.tell [] earlier) place call, ?_, rfl⟩ ⟨free, ?_⟩
    · simp [made]
    · rw [due]
      rfl

/-- The steps of an input that succeeded are its first ones, one for each answer. -/
theorem succeeds_tell_iff (agenda : List Place) (input step : Nat) :
    (itinerary.tell [] agenda).Succeeds input step ↔
      step < ((itinerary.tell [] agenda).answers input).length := by
  refine itinerary.tell_induction
    (fun told => told.Succeeds input step ↔ step < (told.answers input).length) ?_ ?_
  · simp [Succeeds, answers]
  · intro told place _ call ih due _
    rw [succeeds_concat, answers_append, List.length_append, ih, entry]
    cases place with
    | opening stage => simp
    | visit stage other late =>
      obtain ⟨counted, _⟩ := itinerary.due_visit due
      cases itinerary.pipeline.reply (itinerary.start ++ told.calls) call with
      | error failure => simp
      | ok answer =>
        by_cases same : other = input
        · subst same
          have here : ((∃ there, Place.visit stage other late = .visit there other step) ∧
              ∃ given, (Except.ok answer : Except Failure (Reply δ τ)) = .ok given) ↔
              late = step := by
            simp
          rw [here, answers_success, if_pos rfl, List.length_singleton]
          omega
        · simp [same]

end Itinerary

end StagedBuild.Pipeline
