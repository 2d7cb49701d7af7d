/-
The operator types in the report of a benchmark. Every iteration that times the
operators takes one sample of each, so the times are listed for the types of the
net, and the costs for the types of the operators that have one. Nothing is lost
or counted twice: the value of a type is the sum over its own operators
(`Net.BrokenDown.summed`), and the types add up to the sum over all operators
(`Net.BrokenDown.partition`), also as binary64 numbers while nothing is rounded.
-/
import Mathlib.Algebra.Order.BigOperators.Group.List
import Dataflow.Operator.Scripted
import Dataflow.Proofs.Benchmark.Breakdown
import Dataflow.Proofs.Benchmark.Costs
import Dataflow.Proofs.Numeric.Whole

namespace Dataflow

variable {Op World : Type} [Operator Op World]

/-! ## Samples -/

theorem opTypes_congr {Op' : Type} {ops : List (NetOperator Op)} {ops' : List (NetOperator Op')}
    (h : ops.map NetOperator.origin = ops'.map NetOperator.origin) :
    ops.map (·.spec.opType) = ops'.map (·.spec.opType) := by
  have htypes := congrArg (List.map fun origin : ResolvedSpec => origin.spec.opType) h
  rw [List.map_map, List.map_map] at htypes
  exact htypes

/-- An iteration that does not fail takes one sample of each operator. -/
theorem timeOperators_opTypes {setting : TimingSetting} {first : Nat} {ops : List (NetOperator Op)} {world : World}
    (hok : (timeOperators setting first ops world).failure = none) :
    (timeOperators setting first ops world).samples.map (·.opType) = ops.map (·.spec.opType) := by
  induction ops generalizing first world with
  | nil => rfl
  | cons o rest ih =>
    obtain ⟨ho, hrest⟩ := timeOperators_ok_cons hok
    rw [timeOperators_cons_ran ho]
    exact congrArg (o.spec.opType :: ·) (ih hrest)

theorem timeIterations_opTypes {schemas : Option SchemaRegistry} {clock : Clock} {ops : List (NetOperator Op)}
    {world : World} {count : Nat} (hok : (timeIterations schemas clock ops world count).failure = none) :
    (timeIterations schemas clock ops world count).samples.map (·.opType) =
      (List.replicate count (ops.map (·.spec.opType))).flatten := by
  induction count generalizing schemas clock ops world with
  | zero => rfl
  | succ count ih =>
    obtain ⟨hf, hlater⟩ := timeIterations_ok_succ hok
    have hsame : (firstIteration schemas clock ops world).operators.map (·.spec.opType) = ops.map (·.spec.opType) :=
      opTypes_congr (timeOperators_origins ..)
    rw [timeIterations_succ_ran hf, List.map_append, ih hlater, hsame, List.replicate_succ, List.flatten_cons]
    exact congrArg (· ++ _) (timeOperators_opTypes hf)

/-! ## Amounts -/

/-- What a metric sums up of a cost: the time is no matter of costs. -/
def Metric.amount? : Metric → Option (Cost → UInt64)
  | time => none
  | flop => some Cost.flops
  | featureMemory => some Cost.bytesMoved
  | parameterMemory => some Cost.paramsBytes

def costsOf (operators : List OperatorReport) (opType : String) : List Cost :=
  (operators.filter fun entry => entry.opType = opType).filterMap (·.cost)

/-- The sum of some amounts as the benchmark takes it, from the first to the last. -/
def floatSum (amounts : List UInt64) : Float := (amounts.map UInt64.toFloat).foldl (· + ·) 0

def natSum (amounts : List UInt64) : Nat := (amounts.map UInt64.toNat).sum

theorem floatSum_exact {amounts : List UInt64} (h : natSum amounts < 2 ^ 53) :
    floatSum amounts = (UInt64.ofNat (natSum amounts)).toFloat := by
  have hsum := Numeric.foldl_toFloat amounts 0 (by rw [UInt64.toNat_zero, Nat.zero_add]; exact h)
  rw [UInt64.toNat_zero, Nat.zero_add, ← Numeric.zero_eq_toFloat] at hsum
  exact hsum

theorem floatSum_sums {sums : List (List UInt64)} (h : (sums.map natSum).sum < 2 ^ 53) :
    (sums.map floatSum).foldl (· + ·) 0 = (UInt64.ofNat (sums.map natSum).sum).toFloat := by
  have hsmall : ∀ amounts ∈ sums, natSum amounts < 2 ^ 53 := fun amounts hamounts =>
    (List.le_sum_of_mem (List.mem_map_of_mem hamounts)).trans_lt h
  have hnat : natSum (sums.map fun amounts => UInt64.ofNat (natSum amounts)) = (sums.map natSum).sum := by
    rw [natSum, List.map_map]
    refine congrArg List.sum (List.map_congr_left fun amounts hamounts => ?_)
    exact UInt64.toNat_ofNat_of_lt' ((hsmall amounts hamounts).trans (by decide))
  have hfloat : sums.map floatSum = (sums.map fun amounts => UInt64.ofNat (natSum amounts)).map UInt64.toFloat := by
    rw [List.map_map]
    exact List.map_congr_left fun amounts hamounts => floatSum_exact (hsmall amounts hamounts)
  rw [hfloat, ← hnat]
  exact floatSum_exact (by rw [hnat]; exact h)

theorem costsByType_opTypes (operators : List OperatorReport) (opType : String) :
    opType ∈ (costsByType operators).map Prod.fst ↔
      ∃ entry ∈ operators, entry.opType = opType ∧ entry.cost.isSome := by
  simp only [costsByType, List.mem_map, List.mem_filterMap, Option.map_eq_some_iff, Option.isSome_iff_exists]
  constructor
  · rintro ⟨_, ⟨entry, hentry, cost, hcost, rfl⟩, rfl⟩
    exact ⟨entry, hentry, rfl, cost, hcost⟩
  · rintro ⟨entry, hentry, rfl, cost, hcost⟩
    exact ⟨_, ⟨entry, hentry, cost, hcost, rfl⟩, rfl⟩

theorem amountsOf_costsByType {α : Type} (operators : List OperatorReport) (amount : Cost → α) (opType : String) :
    NameMap.amountsOf ((costsByType operators).map fun (t, c) => (t, amount c)) opType =
      (costsOf operators opType).map amount := by
  induction operators with
  | nil => rfl
  | cons entry rest ih =>
    simp only [NameMap.amountsOf, costsByType, costsOf] at ih ⊢
    by_cases htype : entry.opType = opType
    · cases hcost : entry.cost with
      | none => simpa [hcost, htype] using ih
      | some cost => simpa [hcost, htype] using ih
    · cases hcost : entry.cost with
      | none => simpa [hcost, htype] using ih
      | some cost => simpa [hcost, htype] using ih

theorem snd_costsByType {α : Type} (operators : List OperatorReport) (amount : Cost → α) :
    ((costsByType operators).map fun (t, c) => (t, amount c)).map Prod.snd =
      (operators.filterMap (·.cost)).map amount := by
  induction operators with
  | nil => rfl
  | cons entry rest ih =>
    simp only [costsByType] at ih ⊢
    cases hcost : entry.cost with
    | none => simpa [hcost] using ih
    | some cost => simpa [hcost] using ih

/-! ## Totals -/

theorem totalsOf_amount {metric : Metric} {amount : Cost → UInt64} (h : metric.amount? = some amount)
    (samples : List Sample) (operators : List OperatorReport) :
    totalsOf samples operators metric =
      .tally ((costsByType operators).map fun (t, c) => (t, (amount c).toFloat)) := by
  cases metric with
  | time => cases h
  | flop => cases h; rfl
  | featureMemory => cases h; rfl
  | parameterMemory => cases h; rfl

section Totals

variable {metric : Metric} {amount : Cost → UInt64} (hamount : metric.amount? = some amount)
  (samples : List Sample) (operators : List OperatorReport) (normalizer : Float)
include hamount

theorem mem_opTypes_ofTotals (opType : String) :
    opType ∈ (Breakdown.ofTotals metric (totalsOf samples operators metric) normalizer).entries.map (·.opType) ↔
      ∃ entry ∈ operators, entry.opType = opType ∧ entry.cost.isSome := by
  rw [(Breakdown.opTypes_ofTotals ..).mem_iff, totalsOf_amount hamount, NameMap.mem_names_tally, List.map_map,
    ← costsByType_opTypes]
  rfl

theorem value_ofTotals_amount {e : TypeShare Float}
    (he : e ∈ (Breakdown.ofTotals metric (totalsOf samples operators metric) normalizer).entries) :
    e.value = floatSum ((costsOf operators e.opType).map amount) * normalizer := by
  obtain ⟨total, htotal, hvalue⟩ := Breakdown.value_ofTotals he
  have hamounts := amountsOf_costsByType operators (fun c => (amount c).toFloat) e.opType
  rw [totalsOf_amount hamount, NameMap.get?_tally] at htotal
  split at htotal
  next =>
    rw [hvalue, ← Option.some.inj htotal, hamounts, floatSum, List.map_map]
    rfl
  next => cases htotal

/-- The types of a breakdown of costs add up to the sum over all operators. -/
theorem sum_ofTotals_amount :
    ((Breakdown.ofTotals metric (totalsOf samples operators metric) normalizer).entries.map fun e =>
        natSum ((costsOf operators e.opType).map amount)).sum =
      natSum ((operators.filterMap (·.cost)).map amount) := by
  have hnat : ∀ opType, natSum ((costsOf operators opType).map amount) =
      (NameMap.amountsOf ((costsByType operators).map fun (t, c) => (t, (amount c).toNat)) opType).sum := by
    intro opType
    rw [amountsOf_costsByType operators (fun c => (amount c).toNat), natSum, List.map_map]
    rfl
  have hall : natSum ((operators.filterMap (·.cost)).map amount) =
      (((costsByType operators).map fun (t, c) => (t, (amount c).toNat)).map Prod.snd).sum := by
    rw [snd_costsByType operators fun c => (amount c).toNat, natSum, List.map_map]
    rfl
  have hcover : ∀ p ∈ (costsByType operators).map fun (t, c) => (t, (amount c).toNat),
      p.1 ∈ (Breakdown.ofTotals metric (totalsOf samples operators metric) normalizer).entries.map (·.opType) := by
    intro p hp
    obtain ⟨entry, hentry, rfl⟩ := List.mem_map.mp hp
    rw [mem_opTypes_ofTotals hamount, ← costsByType_opTypes]
    exact List.mem_map_of_mem hentry
  rw [hall, ← NameMap.sum_amountsOf (Breakdown.opTypes_nodup ..) hcover, List.map_map]
  exact congrArg List.sum (List.map_congr_left fun e _ => hnat e.opType)

theorem floatSum_ofTotals_amount (h : natSum ((operators.filterMap (·.cost)).map amount) < 2 ^ 53) :
    ((Breakdown.ofTotals metric (totalsOf samples operators metric) normalizer).entries.map fun e =>
        floatSum ((costsOf operators e.opType).map amount)).foldl (· + ·) 0 =
      floatSum ((operators.filterMap (·.cost)).map amount) := by
  have hsum := sum_ofTotals_amount hamount samples operators normalizer
  have hsums := @floatSum_sums ((Breakdown.ofTotals metric (totalsOf samples operators metric) normalizer).entries.map
    fun e => (costsOf operators e.opType).map amount)
  rw [List.map_map, List.map_map] at hsums
  rw [floatSum_exact h, ← hsum]
  exact hsums (hsum.trans_lt h)

end Totals

/-! ## Reports -/

theorem operatorReports_opTypes (mainRuns : Int) (ops : List (NetOperator Op)) (samples : List Sample)
    (costs : List (Option Cost)) :
    (operatorReports mainRuns ops samples costs).map (·.opType) = (ops.zip costs).map fun p => p.1.spec.opType :=
  List.ext_getElem (by simp [operatorReports]) fun i _ _ => by simp [operatorReports]

namespace Net

variable {net : Net Op} {world : World} {s : BenchmarkSetting} {main : BenchmarkReport}

theorem report_opTypes (hok : (net.timed world s).failure = none) :
    (main.withOperators (net.timed world s)).operators.map (·.opType) = net.operators.map (·.spec.opType) := by
  have horigins : (net.timed world s).operators.map NetOperator.origin = net.operators.map NetOperator.origin :=
    timeIterations_origins ..
  have hlength : (net.timed world s).operators.length = (net.timed world s).costs.length := by
    rw [length_timed_costs hok]
    simpa using congrArg List.length horigins
  calc (main.withOperators (net.timed world s)).operators.map (·.opType)
      = ((net.timed world s).operators.zip (net.timed world s).costs).map fun p => p.1.spec.opType :=
        operatorReports_opTypes ..
    _ = (((net.timed world s).operators.zip (net.timed world s).costs).map Prod.fst).map (·.spec.opType) := by
        rw [List.map_map]
        rfl
    _ = (net.timed world s).operators.map (·.spec.opType) := by rw [List.map_fst_zip hlength.le]
    _ = net.operators.map (·.spec.opType) := opTypes_congr horigins

theorem mem_opTypes_time (hm : 1 ≤ s.mainRuns) (hok : (net.timed world s).failure = none)
    (operators : List OperatorReport) (normalizer : Float) (opType : String) :
    opType ∈ (Breakdown.ofTotals .time (totalsOf (net.timed world s).samples operators .time) normalizer).entries.map
        (·.opType) ↔ opType ∈ net.operators.map (·.spec.opType) := by
  have hsamples : (net.timed world s).samples.map (·.opType) =
      (List.replicate s.mainRuns.toNat (net.operators.map (·.spec.opType))).flatten := timeIterations_opTypes hok
  have hcount : s.mainRuns.toNat ≠ 0 := by omega
  rw [(Breakdown.opTypes_ofTotals ..).mem_iff, totalsOf, NameMap.mem_names_tally, List.map_map]
  change opType ∈ (net.timed world s).samples.map (·.opType) ↔ _
  simp [hsamples, hcount]

/-- What it means that a report breaks the metrics of a net down by operator type, without losing a
cost or counting one twice. -/
structure BrokenDown (net : Net Op) (report : BenchmarkReport) : Prop where
  order : report.breakdowns.map (·.metric) = [.time, .flop, .featureMemory, .parameterMemory]
  opTypes : report.operators.map (·.opType) = net.operators.map (·.spec.opType)
  timed : ∀ b ∈ report.breakdowns, b.metric = .time → (b.entries.map (·.opType)).Nodup ∧
    ∀ opType, opType ∈ b.entries.map (·.opType) ↔ opType ∈ net.operators.map (·.spec.opType)
  /-- The metrics of costs are listed for the types of the operators whose entry has a cost, once each. -/
  costed : ∀ b ∈ report.breakdowns, b.metric ≠ .time → (b.entries.map (·.opType)).Nodup ∧
    ∀ opType, opType ∈ b.entries.map (·.opType) ↔
      ∃ entry ∈ report.operators, entry.opType = opType ∧ entry.cost.isSome
  /-- Before it is normalized, the value of a type is the sum of the amounts of the entries of this type
  that have a cost, in the order of the operators. -/
  summed : ∀ b ∈ report.breakdowns, ∀ amount, b.metric.amount? = some amount → ∀ e ∈ b.entries,
    e.value = floatSum ((costsOf report.operators e.opType).map amount) * b.metric.normalizer report.mainRuns
  exact : ∀ amount : Cost → UInt64, ∀ opType, natSum ((costsOf report.operators opType).map amount) < 2 ^ 53 →
    floatSum ((costsOf report.operators opType).map amount) =
      (UInt64.ofNat (natSum ((costsOf report.operators opType).map amount))).toFloat
  /-- The exact sums of the types add up to the exact sum over all entries. -/
  partition : ∀ b ∈ report.breakdowns, ∀ amount, b.metric.amount? = some amount →
    (b.entries.map fun e => natSum ((costsOf report.operators e.opType).map amount)).sum =
      natSum ((report.operators.filterMap (·.cost)).map amount)
  /-- So do the sums of the types as they are taken, as long as they stay below `2 ^ 53`. -/
  addsUp : ∀ b ∈ report.breakdowns, ∀ amount, b.metric.amount? = some amount →
    natSum ((report.operators.filterMap (·.cost)).map amount) < 2 ^ 53 →
    (b.entries.map fun e => floatSum ((costsOf report.operators e.opType).map amount)).foldl (· + ·) 0 =
      floatSum ((report.operators.filterMap (·.cost)).map amount)

end Net

/-- **The aggregates by type neither lose nor double the costs**, for a net of operators of any kind and
schemas of any kind. -/
theorem benchmarkReport_broken_down (net : Net Op) (world : World) (s : BenchmarkSetting) (report : BenchmarkReport)
    (hindividual : s.individual = true) (hm : 1 ≤ s.mainRuns)
    (hok : (net.benchmarkReport world s).outcome = .ok report) : net.BrokenDown report := by
  obtain ⟨-, hreport⟩ := Net.benchmarkReport_ok hok
  simp only [hindividual, if_true] at hreport
  obtain ⟨htimed, rfl⟩ := hreport
  have htypes : (net.afterCalls world s.wholeRuns).1.operators.map (·.spec.opType) =
      net.operators.map (·.spec.opType) := opTypes_congr (net.afterCalls_origins world s.wholeRuns)
  refine ⟨rfl, (Net.report_opTypes htimed).trans htypes, ?_, ?_, ?_, fun _ _ => floatSum_exact, ?_, ?_⟩
  · intro b hb hmetric
    obtain ⟨metric, -, rfl⟩ := List.mem_map.mp hb
    obtain rfl : metric = .time := hmetric
    refine ⟨Breakdown.opTypes_nodup .., fun opType => ?_⟩
    rw [← htypes]
    exact Net.mem_opTypes_time hm htimed ..
  · intro b hb hmetric
    obtain ⟨metric, -, rfl⟩ := List.mem_map.mp hb
    obtain ⟨amount, hamount⟩ : ∃ amount, metric.amount? = some amount := by
      cases metric with
      | time => exact absurd rfl hmetric
      | flop => exact ⟨_, rfl⟩
      | featureMemory => exact ⟨_, rfl⟩
      | parameterMemory => exact ⟨_, rfl⟩
    exact ⟨Breakdown.opTypes_nodup .., fun opType => mem_opTypes_ofTotals hamount ..⟩
  · intro b hb amount hamount e he
    obtain ⟨metric, -, rfl⟩ := List.mem_map.mp hb
    exact value_ofTotals_amount hamount _ _ _ he
  · intro b hb amount hamount
    obtain ⟨metric, -, rfl⟩ := List.mem_map.mp hb
    exact sum_ofTotals_amount hamount ..
  · intro b hb amount hamount h
    obtain ⟨metric, -, rfl⟩ := List.mem_map.mp hb
    exact floatSum_ofTotals_amount hamount _ _ _ h

/-! ## Types that take turns -/

namespace Interleaved

/-- A description with two operators of one type, one between them that is not costed, and one behind
them that costs nothing. -/
def spec : NetSpec where
  name := "interleaved"
  ops := [
    { opType := "FC", name := "first", inputs := ["x"], args := .ofList [("shape", .ints [2, 3]), ("params", .int 8)] },
    { opType := "Copy", name := "second", inputs := ["x"] },
    { opType := "FC", name := "third", inputs := ["x"], args := .ofList [("shape", .ints [5])] },
    { opType := "Relu", name := "fourth", inputs := ["x"], args := .ofList [("shape", .ints [0])] }]

def net : Net Scripted.Actor where
  name := "interleaved"
  operators := List.ofFn fun i => ⟨spec.resolve i, Scripted.actor {} (spec.resolve i).spec⟩

def setting : BenchmarkSetting := ⟨Scripted.schemas ["FC", "Relu"], 1, 2, true, fun _ => 0⟩

theorem costs_by_type :
    (net.benchmarkReport ({} : Scripted.Journal) setting).outcome.toOption.map
        (fun report => report.operators.map fun entry => (entry.opType, entry.cost)) =
      some [("FC", some ⟨6, 24, 8⟩), ("Copy", none), ("FC", some ⟨5, 20, 0⟩), ("Relu", some ⟨0, 0, 0⟩)] := rfl

end Interleaved

open Interleaved in
theorem benchmarkReport_broken_down_interleaved :
    ∃ report, (net.benchmarkReport ({} : Scripted.Journal) setting).outcome = .ok report ∧
      report.operators.map (fun entry => (entry.opType, entry.cost)) =
        [("FC", some ⟨6, 24, 8⟩), ("Copy", none), ("FC", some ⟨5, 20, 0⟩), ("Relu", some ⟨0, 0, 0⟩)] ∧
      net.BrokenDown report := by
  have hcosts := costs_by_type
  cases hreport : (net.benchmarkReport ({} : Scripted.Journal) setting).outcome with
  | error e => rw [hreport] at hcosts; cases hcosts
  | ok report =>
    rw [hreport] at hcosts
    exact ⟨report, rfl, Option.some.inj hcosts,
      benchmarkReport_broken_down net ({} : Scripted.Journal) setting report rfl (by decide) hreport⟩

end Dataflow
