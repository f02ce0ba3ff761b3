import StagedBuild.Proofs.Route

/-!
# The order of the calls of a generation

Every run of `generate`, under either policy and with whatever answers, makes the calls of a
chronicle that goes through whole stages, in a stage through the inputs in order, and for an input
through the next steps in order (`generate_disciplined`). A step is made exactly if the earlier
steps of the same input succeeded and nothing has ended the run.
-/

namespace StagedBuild.Pipeline

variable {δ τ : Type}

/-- The stage that a step of generation belongs to. The steps are reading, decoding, translating,
making the library anew, the two rounds, and generating. -/
def stageOf (step : Nat) : Nat :=
  if step < 2 then 0 else if step < 3 then 1 else if step < 6 then 2 else 3

theorem stageOf_mono {step later : Nat} (h : step ≤ later) : stageOf step ≤ stageOf later := by
  unfold stageOf
  split_ifs <;> omega

/-- No call before the place has failed, if failures end the run. -/
def Chronicle.Undisturbed (told : Chronicle δ τ) (stop : Bool) (place : Place) : Prop :=
  stop = true → ∀ entry ∈ told.before place, ∃ answer, entry.reply = .ok answer

/-- The discipline of a generation from a history on under a policy. -/
structure Disciplined (pipeline : Pipeline δ τ) (inputs : List String) (start : History δ τ)
    (stop : Bool) (told : Chronicle δ τ) : Prop where
  faithful : told.Faithful pipeline start
  /-- The calls come stage by stage, in a stage input by input, for an input step by step. -/
  ordered : (told.map Entry.place).Pairwise Place.Before
  once : (told.map Entry.place).Nodup
  /-- A stage is opened if it is reached. -/
  opened : ∀ stage, told.Has (.opening stage) ↔
    stage < 4 ∧ told.Undisturbed stop (.opening stage)
  line : ∀ entry ∈ told, ∀ stage, entry.place = .opening stage →
    entry.call = .emit pipeline.log (stageLine pipeline.bridge.language stage)
  /-- A step is made if the earlier ones for its input succeeded. -/
  visited : ∀ stage input step, told.Has (.visit stage input step) ↔
    input < inputs.length ∧ step < 7 ∧ stage = stageOf step ∧
      (∀ earlier < step, told.Succeeds input earlier) ∧
      told.Undisturbed stop (.visit stage input step)
  /-- The argument of a step is what the step before it gave for its input. -/
  follows : told.Follows fun input answers => inputs[input]?.bind fun path =>
    inputRoute (inputs.length == 1) path answers
  flag : ∀ tree asMainFile, Call.translate tree asMainFile ∈ told.calls →
    asMainFile = (inputs.length == 1)

/-- The number of the stage that a place belongs to. -/
def Place.stage : Place → Nat
  | .opening stage => stage
  | .visit stage _ _ => stage

theorem Place.before_of_stage {a b : Place} (h : a.stage < b.stage) : a.Before b := by
  cases a <;> cases b <;> simp only [Place.stage] at h <;> simp only [Place.Before] <;> omega

theorem opening_mem_stagePlaces {stage step count size now : Nat} :
    Place.opening now ∈ stagePlaces stage step count size ↔ now = stage := by
  simp [stagePlaces, stageVisits, visits]

theorem visit_mem_stagePlaces {stage step count size now input made : Nat} :
    Place.visit now input made ∈ stagePlaces stage step count size ↔
      now = stage ∧ input < size ∧ step ≤ made ∧ made < step + count := by
  simp only [stagePlaces, stageVisits, visits, List.mem_cons, List.mem_flatMap, List.mem_map,
    List.mem_range'_1, Place.visit.injEq, reduceCtorEq, false_or]
  constructor
  · rintro ⟨_, within, _, between, rfl, rfl, rfl⟩
    omega
  · rintro ⟨rfl, within, between⟩
    exact ⟨input, by omega, made, between, rfl, rfl, rfl⟩

theorem stage_of_mem_stagePlaces {stage step count size : Nat} {place : Place}
    (member : place ∈ stagePlaces stage step count size) : place.stage = stage := by
  cases place with
  | opening now => exact opening_mem_stagePlaces.mp member
  | visit now input made => exact (visit_mem_stagePlaces.mp member).1

theorem pairwise_visits (stage input step count : Nat) :
    (visits stage input step count).Pairwise Place.Before := by
  have increasing : (List.range' step count).Pairwise (· < ·) := List.pairwise_lt_range'
  exact List.pairwise_map.mpr (increasing.imp fun less => .inr ⟨rfl, .inr ⟨rfl, less⟩⟩)

theorem pairwise_stageVisits (stage step count first size : Nat) :
    (stageVisits stage step count first size).Pairwise Place.Before := by
  refine List.pairwise_flatMap.mpr ⟨fun input _ => pairwise_visits stage input step count, ?_⟩
  have increasing : (List.range' first size).Pairwise (· < ·) := List.pairwise_lt_range'
  refine increasing.imp fun less a inA b inB => ?_
  obtain ⟨_, _, _, rfl⟩ := mem_visits inA
  obtain ⟨_, _, _, rfl⟩ := mem_visits inB
  exact .inr ⟨rfl, .inl less⟩

theorem pairwise_stagePlaces (stage step count size : Nat) :
    (stagePlaces stage step count size).Pairwise Place.Before := by
  refine List.pairwise_cons.mpr ⟨fun place member => ?_, pairwise_stageVisits _ _ _ _ _⟩
  obtain ⟨_, _, _, visited⟩ := mem_stageVisits member
  obtain ⟨_, _, _, rfl⟩ := mem_visits visited
  exact Nat.le_refl stage

/-- A later stage goes to the end. -/
theorem pairwise_append_stagePlaces {agenda : List Place} {stage : Nat} (step count size : Nat)
    (sorted : agenda.Pairwise Place.Before) (earlier : ∀ place ∈ agenda, place.stage < stage) :
    (agenda ++ stagePlaces stage step count size).Pairwise Place.Before ∧
      ∀ place ∈ agenda ++ stagePlaces stage step count size, place.stage < stage + 1 := by
  constructor
  · refine List.pairwise_append.mpr ⟨sorted, pairwise_stagePlaces _ _ _ _, fun a inA b inB => ?_⟩
    apply Place.before_of_stage
    rw [stage_of_mem_stagePlaces inB]
    exact earlier a inA
  · intro place member
    rcases List.mem_append.mp member with old | new
    · exact Nat.lt_succ_of_lt (earlier place old)
    · rw [stage_of_mem_stagePlaces new]
      exact Nat.lt_succ_self stage

theorem sorted_generatePlaces (size : Nat) :
    (generatePlaces size).Pairwise Place.Before ∧
      ∀ place ∈ generatePlaces size, place.stage < 4 := by
  obtain ⟨first, early⟩ := pairwise_append_stagePlaces 0 2 size List.Pairwise.nil
    (fun place (member : place ∈ []) => nomatch member)
  obtain ⟨second, early⟩ := pairwise_append_stagePlaces 2 1 size first early
  obtain ⟨third, early⟩ := pairwise_append_stagePlaces 3 3 size second early
  exact pairwise_append_stagePlaces 6 1 size third early

theorem pairwise_generatePlaces (size : Nat) :
    (generatePlaces size).Pairwise Place.Before := (sorted_generatePlaces size).1

/-- The sources are written after everything that generates them. -/
theorem pairwise_writePlaces (size : Nat) : (writePlaces size).Pairwise Place.Before := by
  obtain ⟨sorted, early⟩ := sorted_generatePlaces size
  refine List.pairwise_append.mpr ⟨sorted, pairwise_stageVisits 4 7 1 0 size, fun a inA b inB => ?_⟩
  obtain ⟨_, _, _, visited⟩ := mem_stageVisits inB
  obtain ⟨_, _, _, rfl⟩ := mem_visits visited
  exact Place.before_of_stage (early a inA)

theorem opening_mem_generatePlaces {size stage : Nat} :
    Place.opening stage ∈ generatePlaces size ↔ stage < 4 := by
  simp only [generatePlaces, bothRoundsPlaces, translatePlaces, decodePlaces, List.mem_append,
    opening_mem_stagePlaces]
  omega

theorem visit_mem_generatePlaces {size stage input step : Nat} :
    Place.visit stage input step ∈ generatePlaces size ↔
      input < size ∧ step < 7 ∧ stage = stageOf step := by
  simp only [generatePlaces, bothRoundsPlaces, translatePlaces, decodePlaces, List.mem_append,
    visit_mem_stagePlaces, stageOf]
  split_ifs <;> omega

/-- The steps of an input come in order. -/
theorem before_iff_of_mem_generatePlaces {size stage input step stage' step' : Nat}
    (member : Place.visit stage input step ∈ generatePlaces size)
    (member' : Place.visit stage' input step' ∈ generatePlaces size) :
    (Place.visit stage input step).Before (.visit stage' input step') ↔ step < step' := by
  obtain ⟨_, _, rfl⟩ := visit_mem_generatePlaces.mp member
  obtain ⟨_, _, rfl⟩ := visit_mem_generatePlaces.mp member'
  have upward : step ≤ step' → stageOf step ≤ stageOf step' := stageOf_mono
  have downward : step' ≤ step → stageOf step' ≤ stageOf step := stageOf_mono
  rw [Place.Before]
  omega

theorem eq_wrap_of_map_eq_ok {α : Type} {result : Except Failure α} {wrap : α → Reply δ τ}
    {answer : Reply δ τ} (replied : result.map wrap = .ok answer) :
    ∃ value, answer = wrap value := by
  cases result with
  | error failure => cases replied
  | ok value =>
    cases replied
    exact ⟨value, rfl⟩

/-- An answer leads to the next call, up to the seventh answer. -/
theorem inputRoute_next (pipeline : Pipeline δ τ) (history : History δ τ) {single : Bool}
    {path : String} {answers : List (Reply δ τ)} {call : Call δ τ} {answer : Reply δ τ}
    (leads : inputRoute single path answers = some call)
    (replied : pipeline.reply history call = .ok answer) :
    (inputRoute single path (answers ++ [answer]) : Option (Call δ τ)).isSome ∨
      (answers ++ [answer]).length = 7 := by
  unfold inputRoute at leads
  split at leads
  all_goals cases leads
  case h_1 | h_2 | h_3 | h_4 =>
    obtain ⟨value, rfl⟩ := eq_wrap_of_map_eq_ok replied
    exact .inl (by simp [inputRoute])
  case h_5 | h_6 =>
    -- A round cannot fail, so its reply is known.
    cases replied
    exact .inl (by simp [inputRoute])
  case h_7 => exact .inr rfl

namespace Itinerary

open Chronicle

variable {itinerary : Itinerary δ τ} {inputs : List String}

/-- An input that has not got all seven answers has a next call. -/
theorem route_isSome_tell (route : ∀ input answers, itinerary.route input answers =
      inputs[input]?.bind fun path => inputRoute (isSingle inputs) path answers)
    (agenda : List Place) {input : Nat} (inside : input < inputs.length)
    (unfinished : ((itinerary.tell [] agenda).answers input).length < 7) :
    (itinerary.route input ((itinerary.tell [] agenda).answers input)).isSome := by
  have named : inputs[input]? = some inputs[input] := List.getElem?_eq_getElem inside
  have on : ∀ answers, itinerary.route input answers =
      inputRoute (isSingle inputs) inputs[input] answers := by
    intro answers
    rw [route, named, Option.bind_some]
  suffices onward : (itinerary.route input ((itinerary.tell [] agenda).answers input)).isSome ∨
      ((itinerary.tell [] agenda).answers input).length = 7 by
    rcases onward with next | done
    · exact next
    · omega
  refine itinerary.tell_induction (fun told => (itinerary.route input (told.answers input)).isSome ∨
    (told.answers input).length = 7) (.inl (by rw [on]; rfl)) ?_
  intro told place _ call ih due _
  rw [answers_append, entry]
  cases place with
  | opening stage => simpa using ih
  | visit stage other step =>
    obtain ⟨_, next⟩ := itinerary.due_visit due
    cases replied : itinerary.pipeline.reply (itinerary.start ++ told.calls) call with
    | error failure => simpa using ih
    | ok answer =>
      by_cases same : other = input
      · subst same
        rw [on] at next
        rw [answers_success, if_pos rfl, on]
        exact inputRoute_next itinerary.pipeline _ next replied
      · simpa [same] using ih

/-- Openings cannot fail, so nothing failed exactly if no input is charged. -/
theorem charges_tell_eq_nil_iff (agenda : List Place) :
    (itinerary.tell [] agenda).charges = [] ↔
      ∀ entry ∈ itinerary.tell [] agenda, ∃ answer, entry.reply = .ok answer := by
  rw [charges, List.filterMap_eq_nil_iff]
  refine forall₂_congr fun entry member => ?_
  obtain ⟨earlier, due, replied⟩ := itinerary.due_of_mem_tell member
  obtain ⟨place, call, reply⟩ := entry
  cases place with
  | visit stage input step => cases reply <;> simp [Entry.charge?]
  | opening stage =>
    cases due
    exact iff_of_true rfl ⟨.done, replied⟩

variable (itinerary) in
theorem undisturbed_tell_iff {earlier later : List Place} {place : Place}
    (sorted : (earlier ++ place :: later).Pairwise Place.Before) :
    (itinerary.tell [] (earlier ++ place :: later)).Undisturbed itinerary.stop place ↔
      ¬ itinerary.Halted (itinerary.tell [] earlier) := by
  rw [Undisturbed, itinerary.before_tell sorted, ← charges_tell_eq_nil_iff, Halted, not_and,
    not_not]

variable (itinerary) in
/-- When an input comes to a step, it has an answer for each earlier step exactly if all of these
succeed in the whole run. -/
theorem answered_iff_succeeds {size : Nat} {earlier later : List Place} {stage input step : Nat}
    (split : generatePlaces size = earlier ++ .visit stage input step :: later) :
    ((itinerary.tell [] earlier).answers input).length = step ↔
      ∀ before < step, (itinerary.tell [] (generatePlaces size)).Succeeds input before := by
  have sorted := pairwise_generatePlaces size
  have here : Place.visit stage input step ∈ generatePlaces size := by simp [split]
  rw [split] at sorted
  have past := itinerary.before_tell sorted
  rw [← split] at past
  constructor
  · rintro counted before less
    have success := (itinerary.succeeds_tell_iff earlier input before).mpr (by omega)
    rw [← past] at success
    obtain ⟨entry, member, made, answered⟩ := success
    exact ⟨entry, (List.mem_filter.mp member).1, made, answered⟩
  · intro succeeded
    refine Nat.le_antisymm (Nat.le_of_not_lt fun long => ?_) (Nat.le_of_not_lt fun short => ?_)
    · -- The step itself cannot have been made before its place.
      obtain ⟨entry, member, ⟨now, made⟩, _⟩ :=
        (itinerary.succeeds_tell_iff earlier input step).mpr long
      rw [← past] at member
      obtain ⟨told, before⟩ := List.mem_filter.mp member
      have place := itinerary.place_mem_of_mem_tell told
      rw [made] at place before
      have less := (before_iff_of_mem_generatePlaces place here).mp (of_decide_eq_true before)
      omega
    · -- The first step without an answer succeeded, and it was made before this place.
      obtain ⟨entry, told, ⟨now, made⟩, answered⟩ := succeeded _ short
      have place := itinerary.place_mem_of_mem_tell told
      rw [made] at place
      have before := (before_iff_of_mem_generatePlaces place here).mpr short
      rw [← made] at before
      have success : (itinerary.tell [] earlier).Succeeds input
          ((itinerary.tell [] earlier).answers input).length := by
        refine ⟨entry, ?_, ⟨now, made⟩, answered⟩
        rw [← past]
        exact List.mem_filter.mpr ⟨told, decide_eq_true before⟩
      have less := (itinerary.succeeds_tell_iff earlier input _).mp success
      omega

theorem has_opening_iff (size stage : Nat) :
    (itinerary.tell [] (generatePlaces size)).Has (.opening stage) ↔ stage < 4 ∧
      (itinerary.tell [] (generatePlaces size)).Undisturbed itinerary.stop (.opening stage) := by
  have sorted := pairwise_generatePlaces size
  by_cases inside : stage < 4
  · obtain ⟨earlier, later, split⟩ := List.append_of_mem (opening_mem_generatePlaces.mpr inside)
    rw [split] at sorted ⊢
    rw [itinerary.has_tell_iff sorted, itinerary.undisturbed_tell_iff sorted, and_iff_right inside]
    exact and_iff_left rfl
  · refine iff_of_false ?_ fun both => inside both.1
    rintro ⟨entry, member, here⟩
    have place := itinerary.place_mem_of_mem_tell member
    rw [here] at place
    exact inside (opening_mem_generatePlaces.mp place)

theorem has_visit_iff (route : ∀ input answers, itinerary.route input answers =
      inputs[input]?.bind fun path => inputRoute (isSingle inputs) path answers)
    (stage input step : Nat) :
    (itinerary.tell [] (generatePlaces inputs.length)).Has (.visit stage input step) ↔
      input < inputs.length ∧ step < 7 ∧ stage = stageOf step ∧
      (∀ earlier < step,
        (itinerary.tell [] (generatePlaces inputs.length)).Succeeds input earlier) ∧
      (itinerary.tell [] (generatePlaces inputs.length)).Undisturbed itinerary.stop
        (.visit stage input step) := by
  have sorted := pairwise_generatePlaces inputs.length
  by_cases inside : input < inputs.length ∧ step < 7 ∧ stage = stageOf step
  · obtain ⟨earlier, later, split⟩ := List.append_of_mem (visit_mem_generatePlaces.mpr inside)
    have answered := itinerary.answered_iff_succeeds split
    obtain ⟨known, early, rfl⟩ := inside
    rw [split] at sorted
    have has := itinerary.has_tell_iff sorted
    have free := itinerary.undisturbed_tell_iff sorted
    rw [← split] at has free
    rw [has, free, ← answered, due]
    constructor
    · rintro ⟨free, due⟩
      refine ⟨known, early, rfl, ?_, free⟩
      by_contra behind
      rw [if_neg behind] at due
      cases due
    · rintro ⟨_, _, _, counted, free⟩
      refine ⟨free, ?_⟩
      rw [if_pos counted]
      exact route_isSome_tell route earlier known (by omega)
  · refine iff_of_false ?_ fun all => inside ⟨all.1, all.2.1, all.2.2.1⟩
    rintro ⟨entry, member, here⟩
    have place := itinerary.place_mem_of_mem_tell member
    rw [here] at place
    exact inside (visit_mem_generatePlaces.mp place)

end Itinerary

theorem flag_of_inputRoute {single asMainFile : Bool} {path : String} {answers : List (Reply δ τ)}
    {tree : δ} (leads : inputRoute single path answers = some (.translate tree asMainFile)) :
    asMainFile = single := by
  unfold inputRoute at leads
  split at leads <;> cases leads
  rfl

theorem disciplined_tell (pipeline : Pipeline δ τ) (inputs : List String) (start : History δ τ)
    (stop : Bool) :
    Disciplined pipeline inputs start stop
      (((Operation.generate inputs).itinerary pipeline start stop).tell []
        (generatePlaces inputs.length)) := by
  have ordered : ((((Operation.generate inputs).itinerary pipeline start stop).tell []
      (generatePlaces inputs.length)).map Entry.place).Pairwise Place.Before :=
    Itinerary.pairwise_tell _ (pairwise_generatePlaces inputs.length)
  refine
    { faithful := Itinerary.faithful_tell _ _
      ordered
      once := List.Pairwise.imp (fun before same => by
        rw [same] at before
        exact Place.Before.irrefl _ before) ordered
      opened := Itinerary.has_opening_iff inputs.length
      line := fun entry member stage here => Itinerary.line_tell _ member here
      visited := Itinerary.has_visit_iff fun _ _ => rfl
      follows := Itinerary.follows_tell _ _
      flag := fun tree asMainFile member => ?_ }
  obtain ⟨entry, member, called⟩ := List.mem_map.mp member
  obtain ⟨earlier, due, _⟩ := Itinerary.due_of_mem_tell _ member
  rw [called] at due
  cases here : entry.place with
  | opening stage =>
    rw [here] at due
    cases due
  | visit stage input step =>
    rw [here] at due
    obtain ⟨_, next⟩ := Itinerary.due_visit _ due
    obtain ⟨path, _, leads⟩ := Option.bind_eq_some_iff.mp next
    exact flag_of_inputRoute leads

/-- The calls of a generation keep the discipline, in every session. -/
theorem generate_disciplined (pipeline : Pipeline δ τ) (inputs : List String)
    (session : Session (History δ τ)) :
    ∃ told : Chronicle δ τ,
      ((pipeline.generate inputs).run session).2.world = session.world ++ told.calls ∧
      Disciplined pipeline inputs session.world session.store.stopAtFirstError told := by
  obtain ⟨start, store⟩ := session
  have guides : ((Operation.generate inputs).itinerary pipeline start
      store.stopAtFirstError).Guides inputs :=
    Itinerary.guides_of_inputRoute rfl rfl fun _ _ => rfl
  have free : ¬ ((Operation.generate inputs).itinerary pipeline start
      store.stopAtFirstError).Halted [] := fun halted => halted.2 rfl
  obtain ⟨result, store', run, _⟩ := (guides.arrives_generate free rfl rfl).whole store rfl
  exact ⟨_, congrArg (fun outcome => outcome.2.world) run,
    disciplined_tell pipeline inputs start store.stopAtFirstError⟩

end StagedBuild.Pipeline
