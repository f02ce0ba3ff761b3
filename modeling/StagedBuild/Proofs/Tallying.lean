import Mathlib.Algebra.Ring.Nat
import Mathlib.Data.List.Basic
import Mathlib.Data.List.Nodup
import Mathlib.Data.List.Induction
import StagedBuild.Report.Histogram

/-!
# What a histogram says

A histogram counts every failure that has a stage, under its stage and its kind of node. `Exact`
says which histogram that is without saying how it is made: it fixes the sections, the counts in
them and the order of both. The histogram of a store is exact and no other one is, and its counts
add up to the failures of stages (`ofStore_settled`).

* `ofErrors_eq`: one pass over all failures, however the stages and kinds follow each other, gives
  each stage the counts that a pass over its own failures gives (`tally`). The induction is on the
  errors with the newest last. It carries along which stages were met.
* `inOrder_ofErrors`: the stages that were met, put into the order they run.
* `tally_kindsOf`: the counts of a stage before they are sorted, by induction on the errors with
  the newest last. What is carried along is `Met`: the kinds stand in the order they were met.
* `byFrequency_stable`: sorting keeps the order of entries with equal counts.
* `Exact.eq_ofStore`: an exact histogram leaves no choice.
* `total_ofStore`: no failure of a stage is lost, and none is counted twice.
-/

namespace StagedBuild.FailureStage

theorem mem_all (stage : FailureStage) : stage ∈ FailureStage.all := by
  cases stage <;> decide

/-- No two stages run at the same time. -/
theorem eq_of_isLE {a b : FailureStage} (before : (compare a b).isLE = true)
    (after : (compare b a).isLE = true) : a = b := by
  revert before after
  cases a <;> cases b <;> decide

theorem isLE_trans (a b c : FailureStage) (first : (compare a b).isLE = true)
    (second : (compare b c).isLE = true) : (compare a c).isLE = true := by
  revert first second
  cases a <;> cases b <;> cases c <;> decide

theorem isLE_total (a b : FailureStage) :
    ((compare a b).isLE || (compare b a).isLE) = true := by
  cases a <;> cases b <;> decide

end StagedBuild.FailureStage

namespace StagedBuild.Histogram

/-- The failure is one of this stage at a node of this kind. -/
def isOf (stage : FailureStage) (kind : String) : Failure → Bool
  | .decode own _ => decide (stage = .decoder ∧ own = kind)
  | .translate own _ => decide (stage = .treeTranslator ∧ own = kind)
  | .generate own _ => decide (stage = .codeGenerator ∧ own = kind)
  | .file .. | .libraryRefresh .. => false

/-- The failure is one of this stage. -/
def isIn (stage : FailureStage) : Failure → Bool
  | .decode .. => decide (stage = .decoder)
  | .translate .. => decide (stage = .treeTranslator)
  | .generate .. => decide (stage = .codeGenerator)
  | .file .. | .libraryRefresh .. => false

/-- The failure is not one of a stage: a file or the library is at fault. -/
def isOutside : Failure → Bool
  | .file .. | .libraryRefresh .. => true
  | .decode .. | .translate .. | .generate .. => false

/-- How many failures a stage has at nodes of a kind. -/
def frequency (errors : List Failure) (stage : FailureStage) (kind : String) : Nat :=
  errors.countP (isOf stage kind)

/-- The place of the first failure of a stage at a node of a kind. -/
def firstPlace (errors : List Failure) (stage : FailureStage) (kind : String) : Nat :=
  errors.findIdx (isOf stage kind)

/-- The sum of all counts. -/
def total (histogram : Histogram) : Nat :=
  (histogram.sections.map fun part => (part.counts.map Prod.snd).sum).sum

/-- Each kind of the stage's failures is counted once, and rightly. The most frequent comes first,
and of two that are equally frequent the one that was met first. -/
structure Section.Exact (errors : List Failure) (part : Section) : Prop where
  kinds : (part.counts.map Prod.fst).Nodup
  counts : ∀ kind count, (kind, count) ∈ part.counts ↔
    0 < count ∧ count = frequency errors part.stage kind
  falling : part.counts.Pairwise fun a b => b.2 ≤ a.2
  ties : part.counts.Pairwise fun a b => a.2 = b.2 →
    firstPlace errors part.stage a.1 < firstPlace errors part.stage b.1

/-- There is one section for each stage with failures, in the order the stages run. -/
structure Exact (store : Store) (histogram : Histogram) : Prop where
  stages : histogram.sections.map Section.stage =
    FailureStage.all.filter fun stage => store.errors.any (isIn stage)
  sections : ∀ part ∈ histogram.sections, part.Exact store.errors
  errorCount : histogram.errorCount = store.errors.length
  warningCount : histogram.warningCount = store.warnings.length

theorem isOf_eq (stage : FailureStage) (kind : String) (failure : Failure) :
    isOf stage kind failure = decide (failure.classification = some (stage, kind)) := by
  cases failure <;> simp [isOf, Failure.classification, eq_comm]

theorem isIn_eq (stage : FailureStage) (failure : Failure) :
    isIn stage failure = failure.classification.any fun (own, _) => decide (own = stage) := by
  cases failure <;> simp [isIn, Failure.classification, eq_comm]

/-- The kinds of a stage's failures, each once and in the order they were met. -/
structure Met (errors : List Failure) (stage : FailureStage) (kinds : List String) : Prop where
  known : ∀ kind, kind ∈ kinds ↔ 0 < frequency errors stage kind
  order : kinds.Pairwise fun a b => firstPlace errors stage a < firstPlace errors stage b

theorem Met.nodup {errors : List Failure} {stage : FailureStage} {kinds : List String}
    (met : Met errors stage kinds) : kinds.Nodup := by
  refine met.order.imp fun {a b} before same => ?_
  rw [same] at before
  exact Nat.lt_irrefl _ before

/-- The kinds of a stage's failures, in the order they were recorded. -/
def kindsOf (stage : FailureStage) (errors : List Failure) : List String :=
  errors.filterMap fun failure =>
    match failure.classification with
    | some (own, kind) => if own = stage then some kind else none
    | none => none

/-- The counts of kinds, one after another. -/
def tally (kinds : List String) : Counts :=
  kinds.foldl (fun counts kind => bump kind counts) []

section Keys

variable {κ ν : Type} [DecidableEq κ] (key : κ) {keys : List κ}

/-- Keys in the order they were met, when one is met that may be among them. -/
def withKey (keys : List κ) : List κ :=
  if key ∈ keys then keys else keys ++ [key]

theorem mem_withKey {key other : κ} : other ∈ withKey key keys ↔ other ∈ keys ∨ other = key := by
  rw [withKey]
  by_cases member : key ∈ keys
  · rw [if_pos member]
    refine ⟨.inl, fun either => either.elim id ?_⟩
    rintro rfl
    exact member
  · rw [if_neg member, List.mem_append, List.mem_singleton]

theorem nodup_withKey (nodup : keys.Nodup) : (withKey key keys).Nodup := by
  rw [withKey]
  by_cases member : key ∈ keys
  · rwa [if_pos member]
  · rw [if_neg member, ← List.concat_eq_append]
    exact nodup.concat member

/-- Changing one key of a map whose contents are told by its keys. -/
theorem upsert_map (change : ν → ν) {fresh : ν} (nodup : keys.Nodup) (content : κ → ν)
    (new : key ∉ keys → content key = fresh) :
    upsert key fresh change (keys.map fun known => (known, content known)) =
      (withKey key keys).map fun known =>
        (known, if known = key then change (content known) else content known) := by
  unfold withKey
  induction keys with
  | nil => simp [upsert, new]
  | cons first keys ih =>
    obtain ⟨absent, nodup⟩ := List.nodup_cons.mp nodup
    by_cases here : first = key
    · subst here
      have rest : ∀ known ∈ keys, known ≠ first := fun known member same => absent (same ▸ member)
      simp +contextual [upsert, rest]
    · have later := ih nodup fun missing => new (by simp [Ne.symm here, missing])
      rw [List.map_cons, upsert, if_neg here, later]
      by_cases member : key ∈ keys
      · simp [member, here]
      · simp [member, here, Ne.symm here]

end Keys

theorem bump_map (kind : String) {kinds : List String} (nodup : kinds.Nodup) (count : String → Nat)
    (fresh : kind ∉ kinds → count kind = 0) :
    bump kind (kinds.map fun known => (known, count known)) =
      (withKey kind kinds).map fun known =>
        (known, count known + if known = kind then 1 else 0) := by
  rw [bump, upsert_map kind (· + 1) nodup count fresh]
  refine List.map_congr_left fun known _ => ?_
  by_cases same : known = kind <;> simp [same]

theorem tally_concat (kinds : List String) (kind : String) :
    tally (kinds ++ [kind]) = bump kind (tally kinds) := by
  simp [tally]

theorem kindsOf_concat (stage : FailureStage) (errors : List Failure) (failure : Failure) :
    kindsOf stage (errors ++ [failure]) = kindsOf stage errors ++ kindsOf stage [failure] :=
  List.filterMap_append

theorem frequency_concat (errors : List Failure) (failure : Failure) (stage : FailureStage)
    (kind : String) : frequency (errors ++ [failure]) stage kind =
      frequency errors stage kind + if isOf stage kind failure then 1 else 0 := by
  rw [frequency, List.countP_append, List.countP_singleton]
  rfl

theorem firstPlace_lt_iff {errors : List Failure} {stage : FailureStage} {kind : String} :
    firstPlace errors stage kind < errors.length ↔ 0 < frequency errors stage kind := by
  rw [firstPlace, List.findIdx_lt_length, frequency, List.countP_pos_iff]

/-- A kind that was met before keeps its place. -/
theorem firstPlace_concat_of_known {errors : List Failure} {stage : FailureStage} {kind : String}
    (known : 0 < frequency errors stage kind) (failure : Failure) :
    firstPlace (errors ++ [failure]) stage kind = firstPlace errors stage kind := by
  rw [firstPlace, List.findIdx_append]
  exact if_pos (firstPlace_lt_iff.mpr known)

/-- A kind that is met for the first time comes last. -/
theorem firstPlace_concat_of_fresh {errors : List Failure} {stage : FailureStage} {kind : String}
    {failure : Failure} (fresh : frequency errors stage kind = 0)
    (own : isOf stage kind failure = true) :
    firstPlace (errors ++ [failure]) stage kind = errors.length := by
  have absent : ¬ firstPlace errors stage kind < errors.length := by
    rw [firstPlace_lt_iff, fresh]
    exact Nat.lt_irrefl 0
  rw [firstPlace, List.findIdx_append]
  exact (if_neg absent).trans (by simp [own])

section Met

variable {errors : List Failure} {stage : FailureStage} {kinds : List String}

theorem Met.order_concat (met : Met errors stage kinds) (failure : Failure) :
    kinds.Pairwise fun a b => firstPlace (errors ++ [failure]) stage a <
      firstPlace (errors ++ [failure]) stage b := by
  refine met.order.imp_of_mem fun {a b} first second before => ?_
  rwa [firstPlace_concat_of_known ((met.known a).mp first),
    firstPlace_concat_of_known ((met.known b).mp second)]

variable {failure : Failure}

/-- A failure that is not one of the stage. -/
theorem Met.skip (met : Met errors stage kinds) (other : ∀ kind, isOf stage kind failure = false) :
    Met (errors ++ [failure]) stage kinds where
  known kind := by
    rw [frequency_concat, other, met.known]
    simp
  order := met.order_concat failure

/-- A failure of the stage: its kind is known, or it is the newest. -/
theorem Met.meet (met : Met errors stage kinds) {kind : String}
    (own : ∀ other, isOf stage other failure = decide (other = kind)) :
    Met (errors ++ [failure]) stage (withKey kind kinds) := by
  rw [withKey]
  by_cases member : kind ∈ kinds
  · rw [if_pos member]
    refine ⟨fun other => ?_, met.order_concat failure⟩
    rw [frequency_concat, own]
    by_cases same : other = kind
    · simp [same, member]
    · simp [same, met.known]
  · have fresh : frequency errors stage kind = 0 := by
      have unmet := mt (met.known kind).mpr member
      omega
    rw [if_neg member]
    refine ⟨fun other => ?_, List.pairwise_append.mpr
      ⟨met.order_concat failure, List.pairwise_singleton _ _, fun known first last second => ?_⟩⟩
    · rw [frequency_concat, own]
      by_cases same : other = kind
      · simp [same]
      · simp [same, met.known]
    · have before := (met.known known).mp first
      rw [List.mem_singleton.mp second, firstPlace_concat_of_known before,
        firstPlace_concat_of_fresh fresh (by simp [own])]
      exact firstPlace_lt_iff.mpr before

end Met

/-- A failure adds one kind to those of a stage, or it is not one of the stage. -/
theorem kindsOf_singleton (stage : FailureStage) (failure : Failure) :
    (∃ kind, kindsOf stage [failure] = [kind] ∧
      ∀ other, isOf stage other failure = decide (other = kind)) ∨
    (kindsOf stage [failure] = [] ∧ ∀ kind, isOf stage kind failure = false) := by
  cases found : failure.classification with
  | none => exact .inr (by simp [kindsOf, isOf_eq, found])
  | some own =>
    obtain ⟨reached, kind⟩ := own
    by_cases here : reached = stage
    · exact .inl ⟨kind, by simp [kindsOf, found, here], by simp [isOf_eq, found, here, eq_comm]⟩
    · exact .inr (by simp [kindsOf, isOf_eq, found, here])

/-- The counts of a stage before they are sorted: each kind that was met with its frequency. -/
theorem tally_kindsOf (errors : List Failure) (stage : FailureStage) :
    ∃ kinds, Met errors stage kinds ∧ tally (kindsOf stage errors) =
      kinds.map fun kind => (kind, frequency errors stage kind) := by
  induction errors using List.reverseRecOn with
  | nil => exact ⟨[], ⟨by simp [frequency], List.Pairwise.nil⟩, rfl⟩
  | append_singleton errors failure ih =>
    obtain ⟨kinds, met, counts⟩ := ih
    rw [kindsOf_concat]
    simp only [frequency_concat]
    obtain ⟨kind, newest, own⟩ | ⟨silent, other⟩ := kindsOf_singleton stage failure
    · have fresh : kind ∉ kinds → frequency errors stage kind = 0 := fun unmet =>
        Nat.eq_zero_of_not_pos (mt (met.known kind).mpr unmet)
      refine ⟨_, met.meet own, ?_⟩
      rw [newest, tally_concat, counts, bump_map kind met.nodup _ fresh]
      simp [own]
    · exact ⟨kinds, met.skip other, by simp [silent, counts, other]⟩

theorem length_kindsOf (stage : FailureStage) (errors : List Failure) :
    (kindsOf stage errors).length = errors.countP (isIn stage) := by
  rw [kindsOf, List.length_filterMap_eq_countP]
  refine List.countP_congr fun failure _ => ?_
  cases found : failure.classification with
  | none => simp [isIn_eq, found]
  | some own =>
    by_cases here : own.1 = stage
    · simp [isIn_eq, found, here]
    · simp [isIn_eq, found, here]

theorem sum_bump (kind : String) (counts : List (String × Nat)) :
    ((bump kind counts).map Prod.snd).sum = (counts.map Prod.snd).sum + 1 := by
  induction counts with
  | nil => rfl
  | cons entry counts ih =>
    by_cases here : entry.1 = kind
    · simp only [bump, upsert, if_pos here, List.map_cons, List.sum_cons]
      omega
    · simp only [bump, upsert, if_neg here, List.map_cons, List.sum_cons] at ih ⊢
      omega

/-- Every failure of a stage is counted. -/
theorem sum_tally (kinds : List String) : ((tally kinds).map Prod.snd).sum = kinds.length := by
  induction kinds using List.reverseRecOn with
  | nil => rfl
  | append_singleton kinds kind ih => rw [tally_concat, sum_bump, ih, List.length_append]; rfl

theorem noRarer_trans (a b c : String × Nat) (first : decide (b.2 ≤ a.2) = true)
    (second : decide (c.2 ≤ b.2) = true) : decide (c.2 ≤ a.2) = true := by
  simp only [decide_eq_true_eq] at *
  omega

theorem noRarer_total (a b : String × Nat) : (decide (b.2 ≤ a.2) || decide (a.2 ≤ b.2)) = true := by
  simp only [Bool.or_eq_true, decide_eq_true_eq]
  omega

theorem byFrequency_perm (counts : List (String × Nat)) : (byFrequency counts).Perm counts :=
  List.mergeSort_perm _ _

theorem byFrequency_falling (counts : List (String × Nat)) :
    (byFrequency counts).Pairwise fun a b => b.2 ≤ a.2 := by
  have sorted := List.pairwise_mergeSort noRarer_trans noRarer_total counts
  exact sorted.imp of_decide_eq_true

/-- Entries of one count keep their order. -/
theorem filter_byFrequency (counts : List (String × Nat)) (count : Nat) :
    (byFrequency counts).filter (fun entry => decide (entry.2 = count)) =
      counts.filter fun entry => decide (entry.2 = count) := by
  have level : (counts.filter fun entry => decide (entry.2 = count)).Pairwise
      fun a b => decide (b.2 ≤ a.2) = true := by
    refine List.pairwise_of_forall_mem_list fun a first b second => ?_
    have sameA : a.2 = count := of_decide_eq_true (List.mem_filter.mp first).2
    have sameB : b.2 = count := of_decide_eq_true (List.mem_filter.mp second).2
    exact decide_eq_true (Nat.le_of_eq (sameB.trans sameA.symm))
  have kept : (counts.filter fun entry => decide (entry.2 = count)).Sublist (byFrequency counts) :=
    List.sublist_mergeSort noRarer_trans noRarer_total level List.filter_sublist
  have within := kept.filter fun entry => decide (entry.2 = count)
  rw [List.filter_filter] at within
  simp only [Bool.and_self] at within
  exact (within.eq_of_length ((byFrequency_perm counts).filter _).length_eq.symm).symm

/-- What holds of every two entries in their order holds, after they are sorted, of those with
equal counts. -/
theorem byFrequency_stable {counts : List (String × Nat)} {R : String × Nat → String × Nat → Prop}
    (ordered : counts.Pairwise R) : (byFrequency counts).Pairwise fun a b => a.2 = b.2 → R a b := by
  rw [List.pairwise_iff_forall_sublist] at ordered ⊢
  intro a b pair same
  have level := pair.filter fun entry => decide (entry.2 = b.2)
  rw [filter_byFrequency] at level
  simp only [same, decide_true, List.filter_cons_of_pos, List.filter_nil] at level
  exact ordered (level.trans List.filter_sublist)

/-- A stage was met if it has kinds. -/
theorem kindsOf_eq_nil_iff {stage : FailureStage} {errors : List Failure} :
    kindsOf stage errors = [] ↔ errors.any (isIn stage) = false := by
  rw [← List.length_eq_zero_iff, length_kindsOf, List.countP_eq_zero]
  simp

theorem ofErrors_concat (errors : List Failure) (failure : Failure) :
    Groups.ofErrors (errors ++ [failure]) = (Groups.ofErrors errors).add failure := by
  simp [Groups.ofErrors]

/-- After one pass each stage that was met has its own counts. -/
theorem ofErrors_eq (errors : List Failure) :
    ∃ stages : List FailureStage, stages.Nodup ∧
      (∀ stage, stage ∈ stages ↔ errors.any (isIn stage) = true) ∧
      Groups.ofErrors errors = stages.map fun stage => (stage, tally (kindsOf stage errors)) := by
  induction errors using List.reverseRecOn with
  | nil => exact ⟨[], List.nodup_nil, by simp, rfl⟩
  | append_singleton errors failure ih =>
    obtain ⟨stages, nodup, met, groups⟩ := ih
    rw [ofErrors_concat, groups, Groups.add]
    cases found : failure.classification with
    | none =>
      refine ⟨stages, nodup, fun stage => ?_, ?_⟩
      · rw [met, List.any_append]
        simp [isIn_eq, found]
      · refine List.map_congr_left fun stage _ => ?_
        rw [kindsOf_concat]
        simp [kindsOf, found]
    | some own =>
      obtain ⟨reached, kind⟩ := own
      have new : reached ∉ stages → tally (kindsOf reached errors) = [] := by
        intro unmet
        have silent : errors.any (isIn reached) = false :=
          Bool.eq_false_iff.mpr (mt (met reached).mpr unmet)
        rw [kindsOf_eq_nil_iff.mpr silent]
        rfl
      refine ⟨withKey reached stages, nodup_withKey reached nodup, fun stage => ?_, ?_⟩
      · have newest : isIn stage failure = true ↔ stage = reached := by
          rw [isIn_eq, found, Option.any_some, decide_eq_true_eq, eq_comm]
        rw [mem_withKey, met, List.any_append, Bool.or_eq_true, List.any_cons, List.any_nil,
          Bool.or_false, newest]
      · dsimp only
        rw [upsert_map reached (bump kind) nodup _ new]
        refine List.map_congr_left fun stage _ => ?_
        rw [kindsOf_concat]
        by_cases here : stage = reached
        · subst here
          simp [kindsOf, found, ← tally_concat]
        · simp [kindsOf, found, here, Ne.symm here]

/-- Two stages met the same kind in turns. -/
example (about : Diagnostic) :
    Groups.ofErrors [.generate "Cast" about, .decode "Cast" about, .generate "Loop" about,
      .generate "Cast" about] =
        [(.codeGenerator, [("Cast", 2), ("Loop", 1)]), (.decoder, [("Cast", 1)])] := by
  rfl

/-- The section that a stage gets if it has failures. -/
def fullSection (errors : List Failure) (stage : FailureStage) : Section :=
  ⟨stage, byFrequency (tally (kindsOf stage errors))⟩

/-- The stages that have failures, in the order they run, each with its own counts. -/
theorem inOrder_ofErrors (errors : List Failure) :
    (Groups.ofErrors errors).inOrder =
      (FailureStage.all.filter fun stage => errors.any (isIn stage)).map fun stage =>
        (stage, tally (kindsOf stage errors)) := by
  obtain ⟨stages, nodup, met, groups⟩ := ofErrors_eq errors
  have sorted : (stages.mergeSort fun a b => (compare a b).isLE) =
      FailureStage.all.filter fun stage => errors.any (isIn stage) := by
    have members : stages.Perm (FailureStage.all.filter fun stage => errors.any (isIn stage)) := by
      refine (List.perm_ext_iff_of_nodup nodup (List.Nodup.filter _ (by decide))).mpr ?_
      intro stage
      rw [met, List.mem_filter, and_iff_right (FailureStage.mem_all stage)]
    refine ((List.mergeSort_perm stages _).trans members).eq_of_pairwise
      (fun _ _ _ _ => FailureStage.eq_of_isLE)
      (List.pairwise_mergeSort FailureStage.isLE_trans FailureStage.isLE_total stages) ?_
    exact List.Pairwise.filter _ (by decide)
  rw [groups, Groups.inOrder, ← sorted]
  symm
  -- A group stands where its stage does.
  apply List.map_mergeSort
  exact fun _ _ _ _ => rfl

theorem fullSection_exact (errors : List Failure) (stage : FailureStage) :
    (fullSection errors stage).Exact errors := by
  obtain ⟨kinds, met, counts⟩ := tally_kindsOf errors stage
  have sorted := byFrequency_perm (tally (kindsOf stage errors))
  refine ⟨?_, fun kind count => ?_, byFrequency_falling _, byFrequency_stable ?_⟩
  · have keys : (tally (kindsOf stage errors)).map Prod.fst = kinds := by
      rw [counts, List.map_map]
      exact List.map_id kinds
    exact (sorted.map Prod.fst).nodup_iff.mpr (keys ▸ met.nodup)
  · rw [fullSection, sorted.mem_iff, counts, List.mem_map]
    constructor
    · rintro ⟨known, member, same⟩
      cases same
      exact ⟨(met.known _).mp member, rfl⟩
    · rintro ⟨positive, rfl⟩
      exact ⟨kind, (met.known kind).mpr positive, rfl⟩
  · rw [counts, List.pairwise_map]
    exact met.order

/-- The counts of an exact section are settled. -/
theorem Section.Exact.counts_eq {errors : List Failure} {part other : Section}
    (exact : part.Exact errors) (exactOther : other.Exact errors)
    (same : part.stage = other.stage) : part.counts = other.counts := by
  have members : part.counts.Perm other.counts := by
    refine (List.perm_ext_iff_of_nodup (exact.kinds.of_map _) (exactOther.kinds.of_map _)).mpr ?_
    rintro ⟨kind, count⟩
    rw [exact.counts, exactOther.counts, same]
  have ordered := exact.falling.and exact.ties
  have orderedOther := exactOther.falling.and exactOther.ties
  rw [← same] at orderedOther
  refine members.eq_of_pairwise ?_ ordered orderedOther
  rintro a b - - ⟨fallsA, tieA⟩ ⟨fallsB, tieB⟩
  have level : a.2 = b.2 := Nat.le_antisymm fallsB fallsA
  exact absurd (tieA level) (Nat.lt_asymm (tieB level.symm))

theorem sections_ofStore (store : Store) : (ofStore store).sections =
    (FailureStage.all.filter fun stage => store.errors.any (isIn stage)).map
      (fullSection store.errors) := by
  rw [ofStore, inOrder_ofErrors, List.map_map]
  rfl

theorem exact_ofStore (store : Store) : Exact store (ofStore store) where
  stages := by
    rw [sections_ofStore, List.map_map]
    exact List.map_id _
  sections part member := by
    rw [sections_ofStore] at member
    obtain ⟨stage, -, rfl⟩ := List.mem_map.mp member
    exact fullSection_exact store.errors stage
  errorCount := rfl
  warningCount := rfl

/-- An exact histogram has no choice. -/
theorem Exact.eq_ofStore {store : Store} {histogram : Histogram} (exact : Exact store histogram) :
    histogram = ofStore store := by
  have each : ∀ part ∈ histogram.sections, part = fullSection store.errors part.stage := by
    intro part member
    have counts : part.counts = (fullSection store.errors part.stage).counts :=
      (exact.sections part member).counts_eq (fullSection_exact store.errors part.stage) rfl
    exact congrArg (Section.mk part.stage) counts
  have sections : histogram.sections = (ofStore store).sections := by
    rw [sections_ofStore, ← exact.stages, List.map_map]
    exact (List.map_id _).symm.trans (List.map_congr_left each)
  obtain ⟨errorCount, warningCount, parts⟩ := histogram
  obtain ⟨-, -, rfl, rfl⟩ := exact
  cases sections
  rfl

/-- A stage without failures has nothing to add. -/
theorem sum_fullSections (errors : List Failure) (stages : List FailureStage) :
    (((stages.filter fun stage => errors.any (isIn stage)).map (fullSection errors)).map
      fun part => (part.counts.map Prod.snd).sum).sum =
    (stages.map fun stage => errors.countP (isIn stage)).sum := by
  induction stages with
  | nil => rfl
  | cons stage stages ih =>
    have counted : ((fullSection errors stage).counts.map Prod.snd).sum =
        errors.countP (isIn stage) := by
      rw [← length_kindsOf, ← sum_tally]
      exact ((byFrequency_perm _).map Prod.snd).sum_nat
    rw [List.map_cons, List.sum_cons, ← ih]
    by_cases inside : errors.any (isIn stage) = true
    · rw [List.filter_cons, if_pos inside, List.map_cons, List.map_cons, List.sum_cons, counted]
    · have silent : errors.countP (isIn stage) = 0 := by
        rw [List.countP_eq_zero]
        simpa using inside
      rw [List.filter_cons, if_neg inside, silent, Nat.zero_add]

/-- A failure that has a stage has one stage. -/
theorem sum_countP_isIn (errors : List Failure) :
    (FailureStage.all.map fun stage => errors.countP (isIn stage)).sum =
      errors.countP fun failure => failure.classification.isSome := by
  induction errors with
  | nil => rfl
  | cons failure errors ih =>
    simp only [FailureStage.all, List.map_cons, List.map_nil, List.sum_cons, List.sum_nil,
      List.countP_cons] at ih ⊢
    cases found : failure.classification with
    | none => simpa [isIn_eq, found] using ih
    | some own =>
      obtain ⟨stage, kind⟩ := own
      cases stage <;> simp [isIn_eq, found] <;> omega

theorem total_ofStore (store : Store) :
    (ofStore store).total = store.errors.countP fun failure => failure.classification.isSome := by
  rw [total, sections_ofStore, sum_fullSections, sum_countP_isIn]

theorem exists_section?_iff (histogram : Histogram) (stage : FailureStage) :
    (∃ part, histogram.section? stage = some part ∧ part.stage = stage) ↔
      ∃ part ∈ histogram.sections, part.stage = stage := by
  constructor
  · rintro ⟨part, found, own⟩
    exact ⟨part, List.mem_of_find?_eq_some found, own⟩
  · rintro ⟨part, member, own⟩
    have isSome : (histogram.section? stage).isSome := by
      rw [section?, List.find?_isSome]
      exact ⟨part, member, by simp [own]⟩
    obtain ⟨first, found⟩ := Option.isSome_iff_exists.mp isSome
    exact ⟨first, found, by simpa using List.find?_some found⟩

/-- A section is found exactly for the stages that have failures. -/
theorem section?_ofStore (store : Store) (stage : FailureStage) :
    (∃ part, (ofStore store).section? stage = some part ∧ part.stage = stage) ↔
      ∃ failure ∈ store.errors, isIn stage failure = true := by
  rw [exists_section?_iff, ← List.mem_map, (exact_ofStore store).stages, List.mem_filter,
    List.any_eq_true]
  exact and_iff_right (FailureStage.mem_all stage)

/-- A failure has a stage, or it is that of a file or of the library. -/
theorem length_eq_classified_add_outside (errors : List Failure) :
    errors.length = errors.countP (fun failure => failure.classification.isSome) +
      errors.countP isOutside := by
  have outside : errors.countP isOutside =
      errors.countP fun failure => ¬ failure.classification.isSome := by
    refine List.countP_congr fun failure _ => ?_
    cases failure <;> simp [isOutside, Failure.classification]
  rw [outside]
  exact List.length_eq_countP_add_countP _

/-- The histogram of a store is exact, and it is the only one that is. A section is found exactly
for the stages that have failures. All counts add up to the failures that have a stage, and the
others are those of files and of the library. -/
theorem ofStore_settled (store : Store) :
    Exact store (ofStore store) ∧
    (∀ histogram, Exact store histogram → histogram = ofStore store) ∧
    (∀ stage, (∃ part, (ofStore store).section? stage = some part ∧ part.stage = stage) ↔
      ∃ failure ∈ store.errors, isIn stage failure = true) ∧
    ((ofStore store).total =
      store.errors.countP fun failure => failure.classification.isSome) ∧
    (ofStore store).errorCount = (ofStore store).total + store.errors.countP isOutside := by
  refine ⟨exact_ofStore store, fun _ exact => exact.eq_ofStore, section?_ofStore store,
    total_ofStore store, ?_⟩
  rw [total_ofStore, (exact_ofStore store).errorCount]
  exact length_eq_classified_add_outside store.errors

end StagedBuild.Histogram
