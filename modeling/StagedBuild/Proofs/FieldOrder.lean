import Mathlib.Data.List.Perm.Basic
import StagedBuild.Config

/-!
# The order in which keys are looked at

The keys of a table are looked at in increasing order, whatever order they are written in. So the
configuration depends only on what is read off the keys, not on where they stand (`ofTable_eq`).
-/

namespace StagedBuild.ToolchainConfig

open Toml

theorem perm_sortedFields (table : Table) : (sortedFields table).Perm table :=
  List.mergeSort_perm table _

/-- Different keys are looked at in increasing order. -/
theorem pairwise_sortedFields {table : Table} (distinct : (table.map Prod.fst).Nodup) :
    (sortedFields table).Pairwise fun a b => a.1 < b.1 := by
  have sorted : (sortedFields table).Pairwise fun a b => decide (a.1 ≤ b.1) = true := by
    refine List.pairwise_mergeSort ?_ ?_ table
    · intro a b c ab bc
      exact decide_eq_true (String.le_trans (of_decide_eq_true ab) (of_decide_eq_true bc))
    · intro a b
      simpa using String.le_total a.1 b.1
  have different : (sortedFields table).Pairwise fun a b => a.1 ≠ b.1 := by
    have keys := (perm_sortedFields table).map Prod.fst
    exact List.pairwise_map.mp (keys.nodup_iff.mpr distinct)
  exact (sorted.and different).imp fun both =>
    Std.lt_of_le_of_ne (of_decide_eq_true both.1) both.2

/-- What a configuration reads off a key: its name, and what its value is as a language and as a
path. -/
def reading (field : String × Value) :
    String × Except ConfigError Target × Except ConfigError String :=
  (field.1, languageOf field.2, pathOf field.2)

theorem foldlM_congr {fields fields' : Table} (start : ToolchainConfig)
    (same : fields.map reading = fields'.map reading) :
    fields.foldlM setField start = fields'.foldlM setField start := by
  induction fields generalizing fields' start with
  | nil => rw [List.map_eq_nil_iff.mp same.symm]
  | cons field fields ih =>
    obtain ⟨field', rest, rfl, here, later⟩ := List.map_eq_cons_iff.mp same.symm
    have alike : setField start field = setField start field' := by
      simp only [reading, Prod.mk.injEq] at here
      rw [setField, setField, here.1, here.2.1, here.2.2]
    rw [List.foldlM_cons, List.foldlM_cons, alike]
    congr 1
    funext next
    exact ih next later.symm

/-- Two tables off which the same is read, in whatever order, give the same configuration. -/
theorem ofTable_eq {table table' : Table} (distinct : (table.map Prod.fst).Nodup)
    (readings : (table.map reading).Perm (table'.map reading)) :
    ofTable table' = ofTable table := by
  have keys : (table.map Prod.fst).Perm (table'.map Prod.fst) := by
    simpa [List.map_map, Function.comp_def, reading] using readings.map Prod.fst
  have increasing {table : Table} (distinct : (table.map Prod.fst).Nodup) :
      ((sortedFields table).map reading).Pairwise fun a b => a.1 < b.1 :=
    List.pairwise_map.mpr (pairwise_sortedFields distinct)
  have permuted : ((sortedFields table').map reading).Perm ((sortedFields table).map reading) :=
    ((perm_sortedFields table').map reading).trans
      (readings.symm.trans ((perm_sortedFields table).map reading).symm)
  have same : (sortedFields table').map reading = (sortedFields table).map reading :=
    permuted.eq_of_pairwise (fun a b _ _ ab ba => absurd ba (String.lt_asymm ab))
      (increasing (keys.nodup_iff.mp distinct)) (increasing distinct)
  exact foldlM_congr {} same

end StagedBuild.ToolchainConfig
