/-
Benchmarks on worlds that nothing a benchmark does can tell apart: operators
run alike from related worlds, report the same shapes, and leave related worlds
(`BenchmarksAlike`). Then two benchmarks of the same counts and schemas come
to the same end and report the same costs, whatever their clocks show.
-/
import Dataflow.Proofs.Benchmark.Iterations

namespace Dataflow

variable {Op World : Type} [Operator Op World] {R : World → World → Prop}

/-- From worlds that `R` relates, operators run alike and report the same shapes, and what is done to
them leaves related worlds. -/
structure BenchmarksAlike (Op : Type) {World : Type} [Operator Op World] (R : World → World → Prop) : Prop where
  run : RunsAlike Op R
  reset : ∀ (op : Op) (w w' : World), R w w' → R (Operator.reset op w) (Operator.reset op w')
  asked : ∀ (op : Op) (w w' : World), R w w' →
    (Operator.inputShapes op w).1 = (Operator.inputShapes op w').1 ∧
      R (Operator.inputShapes op w).2 (Operator.inputShapes op w').2

/-- The costs in a report, one place for each operator. -/
def BenchmarkReport.costs (r : BenchmarkReport) : List (Option Cost) := r.operators.map OperatorReport.cost

theorem operatorReports_costs (mainRuns : Int) (ops : List (NetOperator Op)) (samples : List Sample)
    (costs : List (Option Cost)) :
    (operatorReports mainRuns ops samples costs).map OperatorReport.cost = (ops.zip costs).map Prod.snd := by
  refine List.ext_getElem? fun i => ?_
  simp only [operatorReports, List.getElem?_map, List.getElem?_mapIdx, Option.map_map]
  rfl

namespace BenchmarksAlike

theorem estimate (h : BenchmarksAlike Op R) (schemas : Option SchemaRegistry) (clock clock' : Clock) (position : Nat)
    (o : NetOperator Op) {w w' : World} (hw : R w w') :
    (TimingSetting.estimate ⟨schemas, clock⟩ position o w).1 =
        (TimingSetting.estimate ⟨schemas, clock'⟩ position o w').1 ∧
      R (TimingSetting.estimate ⟨schemas, clock⟩ position o w).2.1
        (TimingSetting.estimate ⟨schemas, clock'⟩ position o w').2.1 := by
  obtain ⟨hshapes, hasked⟩ := h.asked o.op w w' hw
  unfold TimingSetting.estimate
  cases schemas with
  | none => exact ⟨rfl, hw⟩
  | some schemas =>
    simp only [estimateCost_cost, estimateCost_world, hshapes]
    cases schemas.costFunction? o.spec.opType with
    | none => exact ⟨trivial, hw⟩
    | some f => exact ⟨trivial, hasked⟩

theorem resetOperators (h : BenchmarksAlike Op R) : ∀ (position : Nat) (ops : List (NetOperator Op)) {w w' : World},
    R w w' → R (resetOperators position ops w).1 (resetOperators position ops w').1
  | _, [], _, _, hw => hw
  | position, o :: rest, w, w', hw => h.resetOperators (position + 1) rest (h.reset o.op w w' hw)

theorem timeOperators (h : BenchmarksAlike Op R) (schemas : Option SchemaRegistry) (clock clock' : Clock) :
    ∀ (position : Nat) (ops : List (NetOperator Op)) {w w' : World}, R w w' →
      (timeOperators ⟨schemas, clock⟩ position ops w).effect.Alike R
          (timeOperators ⟨schemas, clock'⟩ position ops w').effect ∧
        (timeOperators ⟨schemas, clock⟩ position ops w).costs =
          (timeOperators ⟨schemas, clock'⟩ position ops w').costs
  | _, [], _, _, hw => ⟨⟨rfl, rfl, hw⟩, rfl⟩
  | position, o :: rest, w, w', hw => by
    obtain ⟨hcost, hw₁⟩ := h.estimate schemas clock clock' position o hw
    obtain ⟨hop, hfail, hworld⟩ := h.run o.op _ _ hw₁
    cases hf : (Operator.run o.op (TimingSetting.estimate ⟨schemas, clock'⟩ position o w').2.1).failure with
    | some cause =>
      rw [timeOperators_cons_failed hf, timeOperators_cons_failed (hfail.trans hf)]
      exact ⟨⟨by simp only [Timed.effect, hop], rfl, hworld⟩, by simp only [hcost]⟩
    | none =>
      obtain ⟨ih, ihcosts⟩ := h.timeOperators schemas clock clock' (position + 1) rest hworld
      rw [timeOperators_cons_ran hf, timeOperators_cons_ran (hfail.trans hf)]
      refine ⟨⟨?_, ih.failure, ih.world⟩, by simp only [hcost, ihcosts]⟩
      simp only [Timed.effect, hop]
      exact congrArg (_ :: ·) ih.operators

theorem timeIterations (h : BenchmarksAlike Op R) :
    ∀ (count : Nat) (schemas : Option SchemaRegistry) (clock clock' : Clock) (ops : List (NetOperator Op))
      {w w' : World}, R w w' →
      (timeIterations schemas clock ops w count).effect.Alike R (timeIterations schemas clock' ops w' count).effect ∧
        (timeIterations schemas clock ops w count).costs = (timeIterations schemas clock' ops w' count).costs
  | 0, _, _, _, _, _, _, hw => ⟨⟨rfl, rfl, hw⟩, rfl⟩
  | count + 1, schemas, clock, clock', ops, w, w', hw => by
    have hfirst : (firstIteration schemas clock ops w).effect.Alike R (firstIteration schemas clock' ops w').effect ∧
        (firstIteration schemas clock ops w).costs = (firstIteration schemas clock' ops w').costs :=
      h.timeOperators schemas clock clock' 0 ops (h.resetOperators 0 ops hw)
    obtain ⟨heffect, hcosts⟩ := hfirst
    have hfail : (firstIteration schemas clock ops w).failure = (firstIteration schemas clock' ops w').failure :=
      heffect.failure
    have hops : (firstIteration schemas clock ops w).operators = (firstIteration schemas clock' ops w').operators :=
      heffect.operators
    cases hf : (firstIteration schemas clock' ops w').failure with
    | some e =>
      rw [timeIterations_succ_failed hf, timeIterations_succ_failed (hfail.trans hf)]
      exact ⟨heffect, hcosts⟩
    | none =>
      have ih := (h.timeIterations count none (fun k => clock (k + ops.length)) (fun k => clock' (k + ops.length))
        (firstIteration schemas clock' ops w').operators heffect.world).1
      rw [timeIterations_succ_ran hf, timeIterations_succ_ran (hfail.trans hf)]
      simp only [Timed.effect, hops]
      exact ⟨⟨ih.operators, ih.failure, ih.world⟩, hcosts⟩

end BenchmarksAlike

/-- Benchmarks that come to the same end, except for times, and leave related worlds. -/
structure ReportsAlike (R : World → World → Prop) (a b : After Op World BenchmarkReport) : Prop where
  operators : a.net.operators = b.net.operators
  world : R a.world b.world
  outcome : a.outcome.map BenchmarkReport.costs = b.outcome.map BenchmarkReport.costs

theorem BenchmarkReport.ofMainRuns_costs (mainRuns : Int) (millis : Float32) :
    (BenchmarkReport.ofMainRuns mainRuns millis).costs = [] := rfl

omit [Operator Op World] in
theorem BenchmarkReport.withOperators_costs (r : BenchmarkReport) (timed : Timed Op World) :
    (r.withOperators timed).costs = (timed.operators.zip timed.costs).map Prod.snd :=
  operatorReports_costs r.mainRuns timed.operators timed.samples timed.costs

namespace BenchmarksAlike

theorem timeIndividually (h : BenchmarksAlike Op R) (s : BenchmarkSetting) (clock : Clock) (r r' : BenchmarkReport)
    {net net' : Net Op} {w w' : World} (hops : net.operators = net'.operators) (hw : R w w') :
    ReportsAlike R (net.timeIndividually w s r) (net'.timeIndividually w' { s with clock } r') := by
  obtain ⟨ht, hcosts⟩ := h.timeIterations s.mainRuns.toNat (some s.schemas) (fun k => s.clock (k + 1))
    (fun k => clock (k + 1)) net.operators hw
  have hfail := ht.failure
  have hoperators := ht.operators
  simp only [Timed.effect] at hfail hoperators
  unfold Net.timeIndividually
  rw [← hops]
  cases hf : (Dataflow.timeIterations (some s.schemas) (fun k => clock (k + 1)) net.operators w'
      s.mainRuns.toNat).failure with
  | some e =>
    simp only [hf, hfail.trans hf]
    exact ⟨hoperators, ht.world, rfl⟩
  | none =>
    simp only [hf, hfail.trans hf]
    refine ⟨hoperators, ht.world, congrArg Except.ok ?_⟩
    rw [BenchmarkReport.withOperators_costs, BenchmarkReport.withOperators_costs, hoperators, hcosts]

theorem mainRuns (h : BenchmarksAlike Op R) (s : BenchmarkSetting) (clock : Clock)
    {net net' : Net Op} {w w' : World} (hops : net.operators = net'.operators) (hw : R w w') :
    ReportsAlike R (net.mainRuns w s) (net'.mainRuns w' { s with clock }) := by
  obtain ⟨hruns, hcount⟩ := h.run.runTimes s.mainRuns.toNat hops hw
  have hout := hruns.outcome
  unfold Net.mainRuns
  cases ho : (net'.runTimes w' s.mainRuns.toNat).1.outcome with
  | error e =>
    simp only [ho, hout.trans ho, hcount]
    exact ⟨hruns.operators, hruns.world, rfl⟩
  | ok _ =>
    simp only [ho, hout.trans ho]
    cases s.individual with
    | true =>
      have ht := h.timeIndividually s clock (.ofMainRuns s.mainRuns (s.clock 0)) (.ofMainRuns s.mainRuns (clock 0))
        hruns.operators hruns.world
      exact ⟨ht.operators, ht.world, ht.outcome⟩
    | false =>
      refine ⟨hruns.operators, hruns.world, congrArg Except.ok ?_⟩
      rw [BenchmarkReport.ofMainRuns_costs, BenchmarkReport.ofMainRuns_costs]

/-- **Benchmarks on related worlds come to the same end**, whatever their clocks show. -/
theorem benchmarkReport (h : BenchmarksAlike Op R) (s : BenchmarkSetting) (clock : Clock) (net : Net Op)
    {w w' : World} (hw : R w w') :
    ReportsAlike R (net.benchmarkReport w s) (net.benchmarkReport w' { s with clock }) := by
  obtain ⟨hruns, hcount⟩ := h.run.runTimes s.warmupRuns.toNat (Eq.refl net.operators) hw
  have hout := hruns.outcome
  have hcheck : BenchmarkSetting.check { s with clock } = s.check := rfl
  unfold Net.benchmarkReport
  rw [hcheck]
  cases s.check with
  | error e => exact ⟨rfl, hw, rfl⟩
  | ok _ =>
    cases ho : (net.runTimes w' s.warmupRuns.toNat).1.outcome with
    | error e =>
      simp only [ho, hout.trans ho, hcount]
      exact ⟨hruns.operators, hruns.world, rfl⟩
    | ok _ =>
      have hm := h.mainRuns s clock hruns.operators hruns.world
      simp only [ho, hout.trans ho]
      exact ⟨hm.operators, hm.world, hm.outcome⟩

end BenchmarksAlike

end Dataflow
