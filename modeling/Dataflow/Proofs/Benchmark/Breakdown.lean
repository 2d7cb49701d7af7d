/-
Breakdowns by operator type, over numbers of any kind. The entries of a breakdown
are those of the sums that it is made from, in another order and multiplied by
the normalizer (`opTypes_ofTotals`, `value_ofTotals`).
-/
import Dataflow.Benchmark.Metric
import Dataflow.Proofs.NameMap

namespace Dataflow.Breakdown

variable {α : Type} [Add α] [Mul α] [Div α] [Neg α] [LT α] [DecidableLT α] [OfNat α 0] [OfNat α 100]

omit [Add α] [Div α] [Neg α] [OfNat α 0] [OfNat α 100] in
theorem ranked_perm (totals : NameMap α) (normalizer : α) :
    (ranked totals normalizer).Perm (totals.toList.map fun e => (e.1, e.2 * normalizer)) :=
  List.mergeSort_perm ..

theorem opTypes_ofTotals (metric : Metric) (totals : NameMap α) (normalizer : α) :
    ((ofTotals metric totals normalizer).entries.map (·.opType)).Perm totals.names := by
  have hranked : ((ranked totals normalizer).map Prod.fst).Perm totals.names := by
    refine ((ranked_perm totals normalizer).map Prod.fst).trans (List.Perm.of_eq ?_)
    rw [List.map_map]
    rfl
  refine (List.Perm.of_eq ?_).trans hranked
  simp only [ofTotals, List.map_map]
  rfl

theorem opTypes_nodup (metric : Metric) (totals : NameMap α) (normalizer : α) :
    ((ofTotals metric totals normalizer).entries.map (·.opType)).Nodup :=
  (opTypes_ofTotals metric totals normalizer).nodup_iff.mpr totals.names_nodup

theorem value_ofTotals {metric : Metric} {totals : NameMap α} {normalizer : α} {e : TypeShare α}
    (h : e ∈ (ofTotals metric totals normalizer).entries) :
    ∃ total, totals.get? e.opType = some total ∧ e.value = total * normalizer := by
  simp only [ofTotals, List.mem_map] at h
  obtain ⟨ranked, hranked, rfl⟩ := h
  obtain ⟨entry, hentry, rfl⟩ := List.mem_map.mp ((ranked_perm totals normalizer).mem_iff.mp hranked)
  exact ⟨entry.2, NameMap.mem_entries.mp hentry, rfl⟩

end Dataflow.Breakdown
