import Mathlib.Data.List.Basic
import StagedBuild.Batch

/-!
# The calls that a batch makes

Taking a batch through a stage calls the stage on its filled slots, and the stage may do to the
session what it likes, change the policy and forget errors included. `watched` lets a stage write
down its calls as they are made. What the batch does is then told by these calls (`Course`): whom
it called and in which session, where it stopped, what became of each slot and what the store was
given (`tryMap_course`).

* `Visit`: one call, with the session before it and after it.
* `Visit.fatal?`, `Visit.kept?`: the failure of a call, as the policy after the call sees it.
* `Course`: the calls for some slots; `Course.skip` and `Course.visit` put one slot in front.
-/

namespace StagedBuild.Batch

variable {ω α β : Type}

/-- One call of a stage. -/
structure Visit (ω α β : Type) where
  input : α
  before : Session ω
  result : Except Failure β
  after : Session ω

namespace Visit

/-- The call of a stage on one input. -/
def of (stage : α → Step ω β) (input : α) (before : Session ω) : Visit ω α β :=
  let (result, after) := (stage input).run before
  { input, before, result, after }

/-- The failure that ends the batch: the call failed and left a store that stops. -/
def fatal? (visit : Visit ω α β) : Option Failure :=
  match visit.result with
  | .ok _ => none
  | .error failure => if visit.after.store.stopAtFirstError then some failure else none

/-- The failure that the batch hands to the store: the call failed and left a store that keeps
failures. -/
def kept? (visit : Visit ω α β) : Option Failure :=
  match visit.result with
  | .ok _ => none
  | .error failure => if visit.after.store.stopAtFirstError then none else some failure

/-- The session after the call once its failure is kept, at the end of the errors. -/
def settled (visit : Visit ω α β) : Session ω :=
  { visit.after with
    store := { visit.after.store with
      errors := visit.after.store.errors ++ visit.kept?.toList } }

theorem kept?_of_fatal {visit : Visit ω α β} {failure : Failure}
    (fatal : visit.fatal? = some failure) : visit.kept? = none := by
  unfold fatal? at fatal
  unfold kept?
  cases gave : visit.result with
  | ok output => rfl
  | error failed =>
    cases policy : visit.after.store.stopAtFirstError with
    | true => rfl
    | false => simp [gave, policy] at fatal

theorem settled_of_fatal {visit : Visit ω α β} {failure : Failure}
    (fatal : visit.fatal? = some failure) : visit.settled = visit.after := by
  simp [settled, kept?_of_fatal fatal]

/-- A call that does not end the batch gives an output, or a failure to keep. -/
theorem length_outcome {visit : Visit ω α β} (mild : visit.fatal? = none) :
    visit.kept?.toList.length + visit.result.toOption.toList.length = 1 := by
  unfold fatal? at mild
  unfold kept?
  cases gave : visit.result with
  | ok output => rfl
  | error failure =>
    cases policy : visit.after.store.stopAtFirstError with
    | true => simp [gave, policy] at mild
    | false => rfl

end Visit

/-- The session after some calls. -/
def sessionAfter (session : Session ω) (visits : List (Visit ω α β)) : Session ω :=
  (visits.getLast?.map Visit.settled).getD session

/-- The session with a record of calls beside its world. -/
def recording (record : List (Visit ω α β)) (session : Session ω) :
    Session (ω × List (Visit ω α β)) :=
  ⟨(session.world, record), session.store⟩

/-- The stage, with its calls put on record. The stage itself does not see the record. -/
def watched (stage : α → Step ω β) (input : α) : Step (ω × List (Visit ω α β)) β :=
  fun session =>
    let visit := Visit.of stage input ⟨session.world.1, session.store⟩
    (visit.result, recording (session.world.2 ++ [visit]) visit.after)

/-- The number of calls for the slots in front of a slot. -/
def turn (slots : List (Option α)) (index : Nat) : Nat :=
  ((slots.take index).filterMap id).length

/-- All filled slots were visited, and each slot holds what its own call gave. -/
structure Through (slots : List (Option α)) (session : Session ω) (visits : List (Visit ω α β))
    (output : List (Option β)) (after : Session ω) : Prop where
  inputs : visits.map Visit.input = slots.filterMap id
  size : output.length = slots.length
  empty : ∀ index : Nat, slots[index]? = some none → output[index]? = some none
  filled : ∀ (index : Nat) input, slots[index]? = some (some input) →
    ∃ visit, visits[turn slots index]? = some visit ∧ visit.input = input ∧
      output[index]? = some visit.result.toOption
  /-- If the calls leave the errors alone, each filled slot is a filled slot still or one error. -/
  accounts : (∀ visit ∈ visits, visit.after.store.errors = visit.before.store.errors) →
    after.store.errorCount + (output.filterMap id).length =
      session.store.errorCount + (slots.filterMap id).length

/-- The calls made for some slots, and what came of them. -/
structure Course (stage : α → Step ω β) (slots : List (Option α)) (session : Session ω)
    (visits : List (Visit ω α β)) (result : Except Failure (List (Option β)))
    (after : Session ω) : Prop where
  genuine : ∀ visit ∈ visits, visit = Visit.of stage visit.input visit.before
  /-- The calls are for the filled slots, in order, and none is left out before the last. -/
  inputs : visits.map Visit.input <+: slots.filterMap id
  /-- A call finds what the call before it left, once the failure of that call is kept. -/
  chained : ∀ earlier visit later, visits = earlier ++ visit :: later →
    visit.before = sessionAfter session earlier
  left : after = sessionAfter session visits
  /-- A fatal call is the last one, and nothing is done after it. -/
  ended : ∀ earlier visit later failure, visits = earlier ++ visit :: later →
    visit.fatal? = some failure → later = [] ∧ result = .error failure ∧ after = visit.after
  through : (∀ visit ∈ visits, visit.fatal? = none) →
    ∃ output, result = .ok output ∧ Through slots session visits output after
  errors : (∀ visit ∈ visits, visit.after.store.errors = visit.before.store.errors) →
    after.store.errors = session.store.errors ++ visits.filterMap Visit.kept?

theorem sessionAfter_cons (session : Session ω) (visit : Visit ω α β)
    (visits : List (Visit ω α β)) :
    sessionAfter session (visit :: visits) = sessionAfter visit.settled visits := by
  unfold sessionAfter
  rw [List.getLast?_cons, Option.map_some, Option.getD_some]
  cases visits.getLast? <;> rfl

section Slots

variable {stage : α → Step ω β} {slots : List (Option α)} {session after : Session ω}
  {visits : List (Visit ω α β)} {result : Except Failure (List (Option β))}

theorem Course.nil (session : Session ω) : Course stage [] session [] (.ok []) session where
  genuine := by simp
  inputs := List.prefix_refl []
  chained := by simp
  left := rfl
  ended := by simp
  through _ := ⟨[], rfl, rfl, rfl, by simp, by simp, fun _ => rfl⟩
  errors _ := by simp

theorem Through.skip {output : List (Option β)}
    (through : Through slots session visits output after) :
    Through (none :: slots) session visits (none :: output) after where
  inputs := through.inputs
  size := by simp [through.size]
  empty index found := by
    cases index with
    | zero => rfl
    | succ index => exact through.empty index found
  filled index input found := by
    cases index with
    | zero => simp at found
    | succ index => exact through.filled index input found
  accounts := through.accounts

/-- An empty slot in front. -/
theorem Course.skip (course : Course stage slots session visits result after) :
    Course stage (none :: slots) session visits (result.map (none :: ·)) after where
  genuine := course.genuine
  inputs := course.inputs
  chained := course.chained
  left := course.left
  ended earlier visit later failure split fatal := by
    obtain ⟨last, fails, same⟩ := course.ended earlier visit later failure split fatal
    exact ⟨last, by rw [fails]; rfl, same⟩
  through mild := by
    obtain ⟨output, gives, through⟩ := course.through mild
    exact ⟨none :: output, by rw [gives]; rfl, through.skip⟩
  errors := course.errors

/-- A filled slot whose call ends the batch, in front. -/
theorem Course.fatal {input : α} {failure : Failure}
    (fatal : (Visit.of stage input session).fatal? = some failure) :
    Course stage (some input :: slots) session [.of stage input session] (.error failure)
      (Visit.of stage input session).after where
  genuine visit member := by
    rw [List.mem_singleton.mp member]
    rfl
  inputs := List.prefix_append [input] _
  chained earlier visit later split := by
    obtain ⟨rfl, here⟩ | ⟨_, -, beyond⟩ := List.cons_eq_append_iff.mp split
    · cases here
      rfl
    · simp at beyond
  left := (Visit.settled_of_fatal fatal).symm
  ended earlier visit later other split ends := by
    obtain ⟨rfl, here⟩ | ⟨_, -, beyond⟩ := List.cons_eq_append_iff.mp split
    · cases here
      rw [fatal] at ends
      cases ends
      exact ⟨rfl, rfl, rfl⟩
    · simp at beyond
  through mild := by
    rw [mild _ List.mem_cons_self] at fatal
    cases fatal
  errors unchanged := by
    rw [unchanged _ List.mem_cons_self, List.filterMap_cons_none (Visit.kept?_of_fatal fatal),
      List.filterMap_nil, List.append_nil]
    rfl

/-- A filled slot whose call does not end the batch, in front: its output is what the call gave,
and the other slots go on where its bookkeeping ended. -/
theorem Through.visit {input : α} {output : List (Option β)}
    (mild : (Visit.of stage input session).fatal? = none)
    (through : Through slots (Visit.of stage input session).settled visits output after) :
    Through (some input :: slots) session (.of stage input session :: visits)
      ((Visit.of stage input session).result.toOption :: output) after where
  inputs := congrArg (input :: ·) through.inputs
  size := by simp [through.size]
  empty index found := by
    cases index with
    | zero => simp at found
    | succ index => exact through.empty index found
  filled index value found := by
    cases index with
    | zero =>
      cases found
      exact ⟨_, rfl, rfl, rfl⟩
    | succ index => exact through.filled index value found
  accounts unchanged := by
    have here := unchanged _ List.mem_cons_self
    have rest := through.accounts fun visit member =>
      unchanged visit (List.mem_cons_of_mem _ member)
    have outcome := Visit.length_outcome mild
    have start : (Visit.of stage input session).before = session := rfl
    simp only [List.filterMap_eq_flatMap_toList, List.flatMap_cons, List.length_append,
      Visit.settled, Store.errorCount, id, here, start, Option.toList_some,
      List.length_singleton] at rest outcome ⊢
    omega

/-- A filled slot whose call does not end the batch, in front. -/
theorem Course.visit {input : α} (mild : (Visit.of stage input session).fatal? = none)
    (course : Course stage slots (Visit.of stage input session).settled visits result after) :
    Course stage (some input :: slots) session (.of stage input session :: visits)
      (result.map ((Visit.of stage input session).result.toOption :: ·)) after where
  genuine visit member := by
    cases member with
    | head => rfl
    | tail _ member => exact course.genuine visit member
  inputs := List.cons_prefix_cons.mpr ⟨rfl, course.inputs⟩
  chained earlier visit later split := by
    obtain ⟨rfl, here⟩ | ⟨earlier, rfl, beyond⟩ := List.cons_eq_append_iff.mp split
    · cases here
      rfl
    · rw [sessionAfter_cons]
      exact course.chained earlier visit later beyond
  left := by
    rw [sessionAfter_cons]
    exact course.left
  ended earlier visit later failure split ends := by
    obtain ⟨rfl, here⟩ | ⟨earlier, rfl, beyond⟩ := List.cons_eq_append_iff.mp split
    · cases here
      rw [mild] at ends
      cases ends
    · obtain ⟨last, fails, same⟩ := course.ended earlier visit later failure beyond ends
      exact ⟨last, by rw [fails]; rfl, same⟩
  through none_fatal := by
    obtain ⟨output, gives, through⟩ := course.through fun visit member =>
      none_fatal visit (List.mem_cons_of_mem _ member)
    exact ⟨_, by rw [gives]; rfl, through.visit mild⟩
  errors unchanged := by
    rw [course.errors fun visit member => unchanged visit (List.mem_cons_of_mem _ member)]
    have here := unchanged _ List.mem_cons_self
    simp only [List.filterMap_eq_flatMap_toList, List.flatMap_cons, Visit.settled, here,
      List.append_assoc]
    rfl

end Slots

theorem run_of (stage : α → Step ω β) (input : α) (session : Session ω) :
    (stage input).run session =
      ((Visit.of stage input session).result, (Visit.of stage input session).after) := rfl

theorem run_watched (stage : α → Step ω β) (input : α) (session : Session ω)
    (record : List (Visit ω α β)) :
    (watched stage input).run (recording record session) =
      ((Visit.of stage input session).result,
        recording (record ++ [.of stage input session]) (Visit.of stage input session).after) := rfl

/-- What an attempt makes of a call, with or without a record beside the world. -/
theorem Visit.run_attempt {ω' : Type} (visit : Visit ω α β) {step : Step ω' β}
    {session after : Session ω'} (run : step.run session = (visit.result, after))
    (store : after.store = visit.after.store) :
    step.attempt.run session =
      match visit.fatal? with
      | some failure => (.error failure, after)
      | none => (.ok visit.result.toOption, ⟨after.world, visit.settled.store⟩) := by
  unfold Visit.settled Visit.kept? Visit.fatal?
  rw [← store]
  cases gave : visit.result with
  | ok output =>
    rw [gave] at run
    rw [Step.run_attempt_of_ok run]
    simp [Except.toOption]
  | error failure =>
    rw [gave] at run
    cases policy : after.store.stopAtFirstError with
    | true =>
      rw [Step.run_attempt_of_stop run policy]
      simp
    | false =>
      rw [Step.run_attempt_of_keep run policy]
      simp [Except.toOption]

/-- The calls for any slots. The record does not change what the stage does. -/
theorem mapM_course (stage : α → Step ω β) (slots : List (Option α)) (session : Session ω)
    (record : List (Visit ω α β)) :
    ∃ visits result after,
      (slots.mapM (trySlot stage)).run session = (result, after) ∧
      (slots.mapM (trySlot (watched stage))).run (recording record session) =
        (result, recording (record ++ visits) after) ∧
      Course stage slots session visits result after := by
  induction slots generalizing session record with
  | nil => exact ⟨[], .ok [], session, by simp, by simp, Course.nil session⟩
  | cons slot slots ih =>
    cases slot with
    | none =>
      obtain ⟨visits, result, after, run, seen, course⟩ := ih session record
      exact ⟨visits, _, after, Step.run_mapM_cons rfl run, Step.run_mapM_cons rfl seen, course.skip⟩
    | some input =>
      have first := Visit.run_attempt _ (run_of stage input session) rfl
      have firstSeen := Visit.run_attempt _ (run_watched stage input session record) rfl
      cases fatal : (Visit.of stage input session).fatal? with
      | some failure =>
        rw [fatal] at first firstSeen
        refine ⟨_, _, _, ?_, ?_, Course.fatal fatal⟩
        · rw [List.mapM_cons]
          exact Step.run_bind_error first
        · rw [List.mapM_cons]
          exact Step.run_bind_error firstSeen
      | none =>
        rw [fatal] at first firstSeen
        obtain ⟨visits, result, after, run, seen, course⟩ :=
          ih (Visit.of stage input session).settled (record ++ [.of stage input session])
        refine ⟨_, _, after, Step.run_mapM_cons first run, ?_, course.visit fatal⟩
        rw [List.append_cons]
        exact Step.run_mapM_cons firstSeen seen

/-- What a batch does, told by its calls. The stage is called on the filled slots, in order and
each once, up to the first call that fails in a store that stops, and every call finds the session
as the call before it and its bookkeeping left it. Such a call ends the batch with its failure. If
there is none, every filled slot was visited and holds what its call gave, and each failure was
added to the errors that its call left. Where the calls leave the errors alone, the errors are
those at the start and then the failures, one for each call that failed. -/
theorem tryMap_course (batch : Batch α) (stage : α → Step ω β) (session : Session ω) :
    ∃ visits result after,
      (batch.tryMap stage).run session = (result.map Batch.mk, after) ∧
      (batch.tryMap (watched stage)).run (recording [] session) =
        (result.map Batch.mk, recording visits after) ∧
      Course stage batch.slots session visits result after := by
  obtain ⟨visits, result, after, run, seen, course⟩ := mapM_course stage batch.slots session []
  exact ⟨visits, result, after, run_tryMap run, run_tryMap seen, course⟩

/-- The policy that counts is the one a call leaves: the first call turns it off and its failure is
kept, the second turns it on again and ends the batch. -/
example (failure : Failure) :
    ((Batch.mk [some false, none, some true, some false]).tryMap fun stop session =>
        (.error failure, ⟨session.world + 1, session.store.setStop stop⟩)).run
      ⟨0, Store.empty true⟩ =
    ((.error failure : Except Failure (Batch Unit)), ⟨2, ⟨[failure], [], true⟩⟩) := rfl

end StagedBuild.Batch
