/-
Breakdowns in exact arithmetic, over any ordered field. A breakdown of sums that
are not negative is a ranking that loses nothing (`ofTotals_ranking`): the types
come in descending order of their values, those of the same value in the order
of their names, since the sort keeps what it need not exchange (`filter_ranked`).
The values add up to the total, and the percentages to a hundred, unless all
values are zero.
-/
import Dataflow.Proofs.Benchmark.Breakdown
import Mathlib.Algebra.BigOperators.Ring.List
import Mathlib.Algebra.Order.BigOperators.Group.List
import Mathlib.Algebra.Order.Field.Basic
import Mathlib.Tactic.GCongr
import Mathlib.Tactic.Positivity
import Mathlib.Tactic.Ring

namespace Dataflow.Breakdown

variable {α : Type} [Field α] [LinearOrder α] [IsStrictOrderedRing α]

/-- What it means that a breakdown ranks some sums, each multiplied by a normalizer. -/
structure Ranking (totals : NameMap α) (normalizer : α) (b : Breakdown α) : Prop where
  /-- Every type has one entry, whose value is its sum times the normalizer. -/
  lossless : (b.entries.map fun e => (e.opType, e.value)).Perm
    (totals.entries.map fun e => (e.1, e.2 * normalizer))
  once : (b.entries.map (·.opType)).Nodup
  /-- The larger value comes first, and of equal values the smaller name. -/
  sorted : b.entries.Pairwise fun e e' => e'.value < e.value ∨ e.value = e'.value ∧ e.opType < e'.opType
  total : b.total = (b.entries.map (·.value)).sum
  /-- If the total is positive, the percentages are descending, from a hundred to zero, and add up to a
  hundred. -/
  shared : 0 < b.total → b.entries.Pairwise (fun e e' => e'.percent ≤ e.percent) ∧
    (∀ e ∈ b.entries, 0 ≤ e.percent ∧ e.percent ≤ 100) ∧ (b.entries.map (·.percent)).sum = 100
  nothing : ¬ 0 < b.total → ∀ e ∈ b.entries, e.value = 0 ∧ e.percent = 0
  found : ∀ opType sum, totals.get? opType = some sum →
    ∃ e ∈ b.entries, b.share? opType = some e ∧ e.opType = opType ∧ e.value = sum * normalizer
  missing : ∀ opType, totals.get? opType = none → b.share? opType = none

/-! ## The order of the entries -/

/-- The order of the sort: the first value is not the smaller one. -/
def notLess (a b : String × α) : Bool := !decide (a.2 < b.2)

omit [Field α] [IsStrictOrderedRing α] in
theorem notLess_iff {a b : String × α} : notLess a b = true ↔ b.2 ≤ a.2 := by simp [notLess]

omit [Field α] [IsStrictOrderedRing α] in
theorem notLess_trans (a b c : String × α) (hab : notLess a b = true) (hbc : notLess b c = true) :
    notLess a c = true := by
  rw [notLess_iff] at *
  exact hbc.trans hab

omit [Field α] [IsStrictOrderedRing α] in
theorem notLess_total (a b : String × α) : (notLess a b || notLess b a) = true := by
  rw [Bool.or_eq_true, notLess_iff, notLess_iff]
  exact le_total b.2 a.2

def scaled (totals : NameMap α) (normalizer : α) : List (String × α) :=
  totals.toList.map fun e => (e.1, e.2 * normalizer)

omit [LinearOrder α] [IsStrictOrderedRing α] in
theorem scaled_ascending (totals : NameMap α) (normalizer : α) :
    (scaled totals normalizer).Pairwise fun a b => a.1 < b.1 :=
  List.pairwise_map.mpr totals.ascending

omit [IsStrictOrderedRing α] in
theorem ranked_eq (totals : NameMap α) (normalizer : α) :
    ranked totals normalizer = (scaled totals normalizer).mergeSort notLess := rfl

omit [IsStrictOrderedRing α] in
/-- **Types of the same value keep their order**: the sort exchanges none of them. -/
theorem filter_ranked (totals : NameMap α) (normalizer value : α) :
    (ranked totals normalizer).filter (·.2 = value) = (scaled totals normalizer).filter (·.2 = value) := by
  have hvalue : ∀ e ∈ (scaled totals normalizer).filter (·.2 = value), e.2 = value := fun e he =>
    of_decide_eq_true (List.mem_filter.mp he).2
  have hequal : ((scaled totals normalizer).filter (·.2 = value)).Pairwise fun a b => notLess a b = true := by
    refine List.pairwise_iff_forall_sublist.mpr fun {a b} hpair => ?_
    have ha := hvalue a (hpair.subset (by simp))
    have hb := hvalue b (hpair.subset (by simp))
    rw [notLess_iff, ha, hb]
  have hsub := List.sublist_mergeSort notLess_trans notLess_total hequal List.filter_sublist
  have hfilter := hsub.filter (fun e => decide (e.2 = value))
  rw [List.filter_filter, ← ranked_eq] at hfilter
  simp only [Bool.and_self] at hfilter
  exact (hfilter.eq_of_length (((ranked_perm totals normalizer).filter _).length_eq).symm).symm

omit [IsStrictOrderedRing α] in
theorem ranked_sorted (totals : NameMap α) (normalizer : α) :
    (ranked totals normalizer).Pairwise fun a b => b.2 < a.2 ∨ a.2 = b.2 ∧ a.1 < b.1 := by
  rw [List.pairwise_iff_forall_sublist]
  intro a b hpair
  have hle : b.2 ≤ a.2 := by
    have hsorted := List.pairwise_mergeSort notLess_trans notLess_total (scaled totals normalizer)
    exact notLess_iff.mp (List.pairwise_iff_forall_sublist.mp hsorted hpair)
  rcases hle.lt_or_eq with hlt | heq
  · exact .inl hlt
  · -- Both are among the types of this value, which the sort has left in the order of their names.
    have hkept := hpair.filter (fun e => decide (e.2 = a.2))
    rw [filter_ranked] at hkept
    have hnames := (scaled_ascending totals normalizer).filter (fun e => decide (e.2 = a.2))
    have hboth : [a, b].filter (fun e => decide (e.2 = a.2)) = [a, b] := by simp [heq]
    rw [hboth] at hkept
    exact .inr ⟨heq.symm, List.pairwise_iff_forall_sublist.mp hnames hkept⟩

/-! ## Totals and percentages -/

omit [LinearOrder α] [IsStrictOrderedRing α] in
theorem sum_eq (values : List α) : sum values = values.sum := by
  rw [sum, neg_zero, List.sum_eq_foldl]

section Percent

variable {values : List α} {value : α}

theorem sum_percentOf {total : α} (h : 0 < values.sum) (htotal : total = values.sum) :
    (values.map fun v => percentOf v total).sum = 100 := by
  subst htotal
  have hpercent : ∀ v, percentOf v values.sum = v * (100 / values.sum) := by
    intro v
    rw [percentOf, if_pos h]
    ring
  simp only [hpercent]
  rw [List.sum_map_mul_right, List.map_id', mul_div_cancel₀ 100 h.ne']

theorem percentOf_mono {v v' total : α} (h : 0 < total) (hle : v ≤ v') : percentOf v total ≤ percentOf v' total := by
  rw [percentOf, percentOf, if_pos h, if_pos h]
  gcongr

theorem percentOf_bounds {total : α} (h : 0 < total) (hvalue : 0 ≤ value) (hle : value ≤ total) :
    0 ≤ percentOf value total ∧ percentOf value total ≤ 100 := by
  rw [percentOf, if_pos h]
  refine ⟨by positivity, ?_⟩
  rw [div_le_iff₀ h]
  gcongr

end Percent

/-! ## The entries -/

section Entries

variable (metric : Metric) (totals : NameMap α) (normalizer : α)

def entryOf (total : α) (e : String × α) : TypeShare α := ⟨e.1, e.2, percentOf e.2 total⟩

omit [IsStrictOrderedRing α] in
theorem entries_ofTotals : (ofTotals metric totals normalizer).entries =
    (ranked totals normalizer).map (entryOf (ofTotals metric totals normalizer).total) := rfl

omit [IsStrictOrderedRing α] in
theorem map_value_entries : (ofTotals metric totals normalizer).entries.map (·.value) =
    (ranked totals normalizer).map (·.2) := by
  rw [entries_ofTotals, List.map_map]
  rfl

omit [IsStrictOrderedRing α] in
theorem total_ofTotals : (ofTotals metric totals normalizer).total =
    ((ofTotals metric totals normalizer).entries.map (·.value)).sum := by
  rw [map_value_entries]
  exact sum_eq _

omit [IsStrictOrderedRing α] in
theorem lossless_ofTotals : ((ofTotals metric totals normalizer).entries.map fun e => (e.opType, e.value)).Perm
    (totals.entries.map fun e => (e.1, e.2 * normalizer)) := by
  rw [entries_ofTotals, List.map_map]
  exact (List.Perm.of_eq (List.map_id _)).trans (ranked_perm totals normalizer)

omit [IsStrictOrderedRing α] in
theorem sorted_ofTotals : (ofTotals metric totals normalizer).entries.Pairwise fun e e' =>
    e'.value < e.value ∨ e.value = e'.value ∧ e.opType < e'.opType := by
  rw [entries_ofTotals]
  exact List.pairwise_map.mpr (ranked_sorted totals normalizer)

omit [IsStrictOrderedRing α] in
theorem percent_ofTotals {e : TypeShare α} (he : e ∈ (ofTotals metric totals normalizer).entries) :
    e.percent = percentOf e.value (ofTotals metric totals normalizer).total := by
  rw [entries_ofTotals] at he
  obtain ⟨r, -, rfl⟩ := List.mem_map.mp he
  rfl

/-- The percentages come in the order of the values. -/
theorem percents_sorted (hpos : 0 < (ofTotals metric totals normalizer).total) :
    (ofTotals metric totals normalizer).entries.Pairwise fun e e' => e'.percent ≤ e.percent := by
  refine List.Pairwise.imp_of_mem (fun {e e'} he he' horder => ?_) (sorted_ofTotals metric totals normalizer)
  rw [percent_ofTotals metric totals normalizer he, percent_ofTotals metric totals normalizer he']
  exact percentOf_mono hpos (horder.elim le_of_lt fun h => h.1.ge)

theorem sum_percents (hpos : 0 < (ofTotals metric totals normalizer).total) :
    ((ofTotals metric totals normalizer).entries.map (·.percent)).sum = 100 := by
  have htotal := total_ofTotals metric totals normalizer
  have hsum := sum_percentOf (htotal ▸ hpos) htotal
  rw [List.map_map] at hsum
  rwa [List.map_congr_left fun e he => percent_ofTotals metric totals normalizer he]

theorem value_nonneg {totals : NameMap α} {normalizer : α} (hsums : ∀ e ∈ totals.entries, 0 ≤ e.2)
    (hnormalizer : 0 < normalizer) {e : TypeShare α} (he : e ∈ (ofTotals metric totals normalizer).entries) :
    0 ≤ e.value := by
  obtain ⟨sum, hsum, hvalue⟩ := value_ofTotals he
  have hmem : (e.opType, sum) ∈ totals.entries := NameMap.mem_entries.mpr hsum
  rw [hvalue]
  exact mul_nonneg (hsums _ hmem) hnormalizer.le

theorem values_nonneg {totals : NameMap α} {normalizer : α} (hsums : ∀ e ∈ totals.entries, 0 ≤ e.2)
    (hnormalizer : 0 < normalizer) : ∀ v ∈ (ofTotals metric totals normalizer).entries.map (·.value), 0 ≤ v :=
  List.forall_mem_map.mpr fun _ he => value_nonneg metric hsums hnormalizer he

omit [IsStrictOrderedRing α] in
theorem share?_eq {metric : Metric} {totals : NameMap α} {normalizer : α} {e : TypeShare α}
    (he : e ∈ (ofTotals metric totals normalizer).entries) :
    (ofTotals metric totals normalizer).share? e.opType = some e := by
  cases hfound : (ofTotals metric totals normalizer).share? e.opType with
  | none =>
    have hother := List.find?_eq_none.mp hfound e he
    simp at hother
  | some e' =>
    have hmem := List.mem_of_find?_eq_some hfound
    have htype : e'.opType = e.opType := by simpa using List.find?_some hfound
    have hinj := List.inj_on_of_nodup_map (opTypes_nodup metric totals normalizer)
    rw [hinj hmem he htype]

end Entries

/-- **A breakdown is a ranking that loses nothing**, when the sums are not negative and the normalizer is
positive. -/
theorem ofTotals_ranking (metric : Metric) (totals : NameMap α) (normalizer : α)
    (hsums : ∀ e ∈ totals.entries, 0 ≤ e.2) (hnormalizer : 0 < normalizer) :
    Ranking totals normalizer (ofTotals metric totals normalizer) where
  lossless := lossless_ofTotals metric totals normalizer
  once := opTypes_nodup metric totals normalizer
  sorted := sorted_ofTotals metric totals normalizer
  total := total_ofTotals metric totals normalizer
  shared hpos := by
    have htotal := total_ofTotals metric totals normalizer
    refine ⟨percents_sorted metric totals normalizer hpos, fun e he => ?_, sum_percents metric totals normalizer hpos⟩
    have hle := List.single_le_sum (values_nonneg metric hsums hnormalizer) e.value (List.mem_map_of_mem he)
    rw [percent_ofTotals metric totals normalizer he]
    exact percentOf_bounds hpos (value_nonneg metric hsums hnormalizer he) (htotal ▸ hle)
  nothing hpos e he := by
    have hnonneg := values_nonneg metric hsums hnormalizer
    have htotal := total_ofTotals metric totals normalizer
    have hzero : ((ofTotals metric totals normalizer).entries.map (·.value)).sum = 0 :=
      le_antisymm (htotal ▸ not_lt.mp hpos) (List.sum_nonneg hnonneg)
    refine ⟨List.all_zero_of_le_zero_le_of_sum_eq_zero hnonneg hzero (List.mem_map_of_mem he), ?_⟩
    rw [percent_ofTotals metric totals normalizer he, percentOf, if_neg hpos]
  found opType sum hsum := by
    have hmem : opType ∈ (ofTotals metric totals normalizer).entries.map (·.opType) := by
      rw [(opTypes_ofTotals metric totals normalizer).mem_iff, NameMap.mem_names, hsum]
      rfl
    obtain ⟨e, he, rfl⟩ := List.mem_map.mp hmem
    obtain ⟨sum', hsum', hvalue⟩ := value_ofTotals he
    rw [hsum] at hsum'
    exact ⟨e, he, share?_eq he, rfl, by rw [hvalue, Option.some.inj hsum']⟩
  missing opType hnone := by
    refine List.find?_eq_none.mpr fun e he htype => ?_
    obtain ⟨sum, hsum, -⟩ := value_ofTotals he
    rw [beq_iff_eq.mp htype, hnone] at hsum
    cases hsum

/-- The sums of four types, two of them of the same value. -/
def tiedTotals : NameMap ℚ := .ofList [("Relu", 2), ("Copy", 0), ("FC", 3), ("Add", 2)]

theorem ofTotals_ranking_tied :
    (∀ e ∈ tiedTotals.entries, 0 ≤ e.2) ∧ (0 : ℚ) < 1 / 2 ∧
      Ranking tiedTotals (1 / 2) (ofTotals .time tiedTotals (1 / 2)) ∧
      (ofTotals .time tiedTotals (1 / 2)).share? "Sigmoid" = none := by
  have hsums : ∀ e ∈ tiedTotals.entries, 0 ≤ e.2 := by decide
  have hnormalizer : (0 : ℚ) < 1 / 2 := by norm_num
  have hranking := ofTotals_ranking .time tiedTotals (1 / 2) hsums hnormalizer
  exact ⟨hsums, hnormalizer, hranking, hranking.missing "Sigmoid" rfl⟩

end Dataflow.Breakdown
