/-
The costs in the report of a benchmark. The cost of an operator is estimated
from the shapes that it reports right before its own turn in the first iteration
that times it, and stands in the entry of this operator and no other
(`Net.CostsInPlace`). The moment before a turn is made from the operators before
it alone (`costedUpTo`), and the loop goes through these moments
(`timeOperators_turns`), so the entry at a position asks for one turn only.
-/
import Dataflow.Operator.Reference
import Dataflow.Proofs.Benchmark.Iterations
import Dataflow.Proofs.Benchmark.Success
import Dataflow.Proofs.Net.Building
import Dataflow.Proofs.Schema

namespace Dataflow

variable {Op World : Type} [Operator Op World]

/-! ## The turns of an iteration -/

/-- The estimated cost of an operator in a world, if its type is costed and it reports as many shapes
as it has inputs. -/
def estimatedCost (schemas : SchemaRegistry) (o : NetOperator Op) (world : World) : Option Cost :=
  match schemas.costFunction? o.spec.opType with
  | none => none
  | some f =>
    if (Operator.inputShapes o.op world).1.length = o.spec.inputs.length then
      some (f o.spec (Operator.inputShapes o.op world).1)
    else none

theorem estimatedCost_eq_some {schemas : SchemaRegistry} {o : NetOperator Op} {world : World} {cost : Cost} :
    estimatedCost schemas o world = some cost ↔
      ∃ f, schemas.costFunction? o.spec.opType = some f ∧
        (Operator.inputShapes o.op world).1.length = o.spec.inputs.length ∧
        cost = f o.spec (Operator.inputShapes o.op world).1 := by
  unfold estimatedCost
  cases schemas.costFunction? o.spec.opType with
  | none => simp
  | some f => simp [eq_comm]

/-- What an operator does at its turn in the iteration that estimates costs: if its type is costed, it is
asked for the shapes of its inputs, and then it runs. -/
def costedTurn (schemas : SchemaRegistry) (o : NetOperator Op) (world : World) : Ran Op World :=
  match schemas.costFunction? o.spec.opType with
  | none => Operator.run o.op world
  | some _ => Operator.run o.op (Operator.inputShapes o.op world).2

theorem run_estimated (schemas : SchemaRegistry) (position : Nat) (o : NetOperator Op) (world : World) :
    Operator.run o.op (estimateCost schemas position o world).2.1 = costedTurn schemas o world := by
  rw [estimateCost_world, costedTurn]
  cases schemas.costFunction? o.spec.opType <;> rfl

/-- The world before the turn of the operator at a position, behind the turns of the operators before it. -/
def costedUpTo (schemas : SchemaRegistry) (ops : List (NetOperator Op)) (world : World) (i : Nat) : World :=
  (ops.take i).foldl (fun w o => (costedTurn schemas o w).world) world

theorem costedUpTo_succ (schemas : SchemaRegistry) (ops : List (NetOperator Op)) (world : World)
    (i : Fin ops.length) :
    costedUpTo schemas ops world (i + 1) = (costedTurn schemas ops[i] (costedUpTo schemas ops world i)).world := by
  rw [costedUpTo, List.take_succ_eq_append_getElem i.isLt, List.foldl_append]
  rfl

/-- The operator at a position has run at its turn, and the cost at this position is that of its turn. -/
structure TurnTaken (schemas : SchemaRegistry) (ops : List (NetOperator Op)) (world : World)
    (costs : List (Option Cost)) (i : Fin ops.length) : Prop where
  ran : (costedTurn schemas ops[i] (costedUpTo schemas ops world i)).failure = none
  cost : costs[(i : Nat)]? = some (estimatedCost schemas ops[i] (costedUpTo schemas ops world i))

theorem TurnTaken.succ {schemas : SchemaRegistry} {o : NetOperator Op} {rest : List (NetOperator Op)} {world : World}
    {costs : List (Option Cost)} {i : Fin rest.length}
    (h : TurnTaken schemas rest (costedTurn schemas o world).world costs i) (cost : Option Cost) :
    TurnTaken schemas (o :: rest) world (cost :: costs) i.succ := ⟨h.ran, h.cost⟩

/-- **Every operator takes its turn in an iteration that does not fail.** -/
theorem timeOperators_turns {schemas : SchemaRegistry} {clock : Clock} {first : Nat} {ops : List (NetOperator Op)}
    {world : World} (hok : (timeOperators ⟨some schemas, clock⟩ first ops world).failure = none)
    (i : Fin ops.length) :
    TurnTaken schemas ops world (timeOperators ⟨some schemas, clock⟩ first ops world).costs i := by
  induction ops generalizing first world with
  | nil => exact i.elim0
  | cons o rest ih =>
    have hrun : Operator.run o.op ((TimingSetting.mk (some schemas) clock).estimate first o world).2.1 =
        costedTurn schemas o world := run_estimated schemas first o world
    obtain ⟨ho, hrest⟩ := timeOperators_ok_cons hok
    rw [timeOperators_cons_ran ho]
    simp only [hrun] at ho hrest ⊢
    induction i using Fin.cases with
    | zero => exact ⟨ho, congrArg some (estimateCost_cost schemas first o world)⟩
    | succ j => exact (ih hrest j).succ _

theorem length_timeOperators_costs {setting : TimingSetting} {first : Nat} {ops : List (NetOperator Op)}
    {world : World} (hok : (timeOperators setting first ops world).failure = none) :
    (timeOperators setting first ops world).costs.length = ops.length := by
  induction ops generalizing first world with
  | nil => rfl
  | cons o rest ih =>
    obtain ⟨ho, hrest⟩ := timeOperators_ok_cons hok
    rw [timeOperators_cons_ran ho]
    exact congrArg (· + 1) (ih hrest)

theorem timeOperators_origins (setting : TimingSetting) (first : Nat) (ops : List (NetOperator Op)) (world : World) :
    (timeOperators setting first ops world).operators.map NetOperator.origin = ops.map NetOperator.origin := by
  induction ops generalizing first world with
  | nil => rfl
  | cons o rest ih =>
    cases ho : (Operator.run o.op (setting.estimate first o world).2.1).failure with
    | some cause => rw [timeOperators_cons_failed ho]; rfl
    | none =>
      rw [timeOperators_cons_ran ho]
      exact congrArg (o.origin :: ·) (ih ..)

/-! ## Iterations in a row -/

theorem resetOperators_world (first : Nat) (ops : List (NetOperator Op)) (world : World) :
    (resetOperators first ops world).1 = ops.foldl (fun w o => Operator.reset o.op w) world := by
  induction ops generalizing first world with
  | nil => rfl
  | cons o rest ih => exact ih (first + 1) (Operator.reset o.op world)

theorem timeIterations_origins (schemas : Option SchemaRegistry) (clock : Clock) (ops : List (NetOperator Op))
    (world : World) (count : Nat) :
    (timeIterations schemas clock ops world count).operators.map NetOperator.origin =
      ops.map NetOperator.origin := by
  induction count generalizing schemas clock ops world with
  | zero => rfl
  | succ count ih =>
    have hfirst := timeOperators_origins ⟨schemas, clock⟩ 0 ops (resetOperators 0 ops world).1
    cases hf : (firstIteration schemas clock ops world).failure with
    | some e => rw [timeIterations_succ_failed hf]; exact hfirst
    | none => rw [timeIterations_succ_ran hf]; exact (ih ..).trans hfirst

/-- Of several iterations the first one estimates the costs. -/
theorem timeIterations_costs {schemas : Option SchemaRegistry} {clock : Clock} {ops : List (NetOperator Op)}
    {world : World} {count : Nat} (hok : (timeIterations schemas clock ops world (count + 1)).failure = none) :
    (firstIteration schemas clock ops world).failure = none ∧
      (timeIterations schemas clock ops world (count + 1)).costs = (firstIteration schemas clock ops world).costs := by
  obtain ⟨hf, -⟩ := timeIterations_ok_succ hok
  exact ⟨hf, by rw [timeIterations_succ_ran hf]⟩

namespace Net

variable {net : Net Op} {world : World} {s : BenchmarkSetting}

/-- The world before the turn of the operator at a position, in the first iteration that times the
operators of a net: all of them have been cleared, and those before it have taken their turns. -/
def timedUpTo (net : Net Op) (world : World) (s : BenchmarkSetting) (i : Nat) : World :=
  costedUpTo s.schemas net.operators (net.operators.foldl (fun w o => Operator.reset o.op w) world) i

theorem timed_madeFrom {spec : NetSpec} (h : net.MadeFrom spec) (world : World) (s : BenchmarkSetting) :
    MadeFrom { net with operators := (net.timed world s).operators } spec :=
  (timeIterations_origins ..).trans h

/-- Operators that are timed at least once take their turns in the first iteration. -/
theorem timed_turns (hm : 1 ≤ s.mainRuns) (hok : (net.timed world s).failure = none) (i : Fin net.operators.length) :
    TurnTaken s.schemas net.operators (net.operators.foldl (fun w o => Operator.reset o.op w) world)
      (net.timed world s).costs i := by
  obtain ⟨count, hcount⟩ : ∃ count, s.mainRuns.toNat = count + 1 := ⟨s.mainRuns.toNat - 1, by omega⟩
  unfold timed at hok ⊢
  rw [hcount] at hok ⊢
  obtain ⟨hfirst, hcosts⟩ := timeIterations_costs hok
  rw [hcosts, ← resetOperators_world 0]
  exact timeOperators_turns hfirst i

theorem timed_costs_idle (net : Net Op) (world : World) {s : BenchmarkSetting} (hm : s.mainRuns = 0) :
    (net.timed world s).costs = net.operators.map fun _ => none := by
  unfold timed
  rw [hm]
  rfl

theorem length_timed_costs (hok : (net.timed world s).failure = none) :
    (net.timed world s).costs.length = net.operators.length := by
  unfold timed at hok ⊢
  cases hm : s.mainRuns.toNat with
  | zero => exact List.length_map _
  | succ count =>
    rw [hm] at hok
    obtain ⟨hfirst, hcosts⟩ := timeIterations_costs hok
    rw [hcosts]
    exact length_timeOperators_costs hfirst

end Net

/-! ## Reports -/

theorem length_operatorReports (mainRuns : Int) (ops : List (NetOperator Op)) (samples : List Sample)
    (costs : List (Option Cost)) :
    (operatorReports mainRuns ops samples costs).length = min ops.length costs.length := by
  simp [operatorReports]

theorem operatorReports_getElem? {mainRuns : Int} {ops : List (NetOperator Op)} {samples : List Sample}
    {costs : List (Option Cost)} {i : Nat} {entry : OperatorReport}
    (h : (operatorReports mainRuns ops samples costs)[i]? = some entry) :
    ∃ o cost, ops[i]? = some o ∧ costs[i]? = some cost ∧ entry.index = i ∧ entry.name = o.spec.displayName ∧
      entry.opType = o.spec.opType ∧ entry.cost = cost := by
  simp only [operatorReports, List.getElem?_mapIdx, List.getElem?_zip_eq_some, Option.map_eq_some_iff] at h
  obtain ⟨⟨o, cost⟩, ⟨ho, hcost⟩, rfl⟩ := h
  exact ⟨o, cost, ho, hcost, rfl, rfl, rfl, rfl⟩

theorem Breakdown.ofTotals_empty (metric : Metric) (normalizer : Float) :
    (Breakdown.ofTotals metric .empty normalizer).entries = [] := by
  simp [Breakdown.ofTotals, Breakdown.ranked, NameMap.toList, NameMap.empty]

theorem totalsOf_idle {operators : List OperatorReport} (h : ∀ entry ∈ operators, entry.cost = none)
    (metric : Metric) : totalsOf [] operators metric = .empty := by
  have hcosts : costsByType operators = [] := by
    simpa [costsByType] using h
  cases metric <;> simp [totalsOf, hcosts, NameMap.tally]

namespace Net

variable {net : Net Op} {world : World} {spec : NetSpec} {s : BenchmarkSetting} {main : BenchmarkReport}

theorem entry_of_timed (hmade : net.MadeFrom spec) {i : Nat} {entry : OperatorReport}
    (hentry : (main.withOperators (net.timed world s)).operators[i]? = some entry) :
    ∃ hi : i < spec.ops.length, entry.index = i ∧ entry.name = (spec.resolvedSpec ⟨i, hi⟩).displayName ∧
      entry.opType = (spec.resolvedSpec ⟨i, hi⟩).opType ∧ (net.timed world s).costs[i]? = some entry.cost := by
  have hafter := timed_madeFrom hmade world s
  obtain ⟨o, cost, ho, hcost, hindex, hname, htype, rfl⟩ := operatorReports_getElem? hentry
  obtain ⟨hlt, rfl⟩ := List.getElem?_eq_some_iff.mp ho
  have hi : i < spec.ops.length := hafter.length ▸ hlt
  have hspec := hafter.spec_eq ⟨i, hi⟩ hlt
  exact ⟨hi, hindex, hname.trans (congrArg _ hspec), htype.trans (congrArg _ hspec), hcost⟩

theorem length_of_timed (main : BenchmarkReport) (hmade : net.MadeFrom spec)
    (hok : (net.timed world s).failure = none) :
    (main.withOperators (net.timed world s)).operators.length = spec.ops.length := by
  have hops : (net.timed world s).operators.length = spec.ops.length := (timed_madeFrom hmade world s).length
  refine (length_operatorReports ..).trans ?_
  rw [hops, length_timed_costs hok, hmade.length, Nat.min_self]

/-- Operators that are never timed have no cost, and nothing is broken down. -/
theorem idle_of_timed (hmade : net.MadeFrom spec) (hm : s.mainRuns = 0) :
    (∀ entry ∈ (main.withOperators (net.timed world s)).operators, entry.cost = none) ∧
      (main.withOperators (net.timed world s)).breakdowns.map (·.metric) = Metric.all ∧
      ∀ breakdown ∈ (main.withOperators (net.timed world s)).breakdowns, breakdown.entries = [] := by
  have hnone : ∀ entry ∈ (main.withOperators (net.timed world s)).operators, entry.cost = none := by
    intro entry hentry
    obtain ⟨i, hentry⟩ := List.mem_iff_getElem?.mp hentry
    obtain ⟨-, -, -, -, hcost⟩ := entry_of_timed hmade hentry
    rw [timed_costs_idle net world hm, List.getElem?_map, Option.map_eq_some_iff] at hcost
    obtain ⟨o, -, hcost⟩ := hcost
    exact hcost.symm
  refine ⟨hnone, rfl, fun breakdown hbreakdown => ?_⟩
  obtain ⟨metric, -, rfl⟩ := List.mem_map.mp hbreakdown
  have hsamples : (net.timed world s).samples = [] := by
    unfold timed
    rw [hm]
    rfl
  have hempty :
      totalsOf (net.timed world s).samples (main.withOperators (net.timed world s)).operators metric = .empty := by
    rw [hsamples]
    exact totalsOf_idle hnone metric
  exact (congrArg (fun totals => (Breakdown.ofTotals metric totals _).entries) hempty).trans
    (Breakdown.ofTotals_empty metric _)

/-- The cost at a position is that of the operator there, in the world before its turn. -/
theorem cost_of_timed (hmade : net.MadeFrom spec) (hok : (net.timed world s).failure = none)
    (hm : 1 ≤ s.mainRuns) {i : Nat} {entry : OperatorReport}
    (hentry : (main.withOperators (net.timed world s)).operators[i]? = some entry) :
    ∃ hi : i < net.operators.length,
      entry.cost = estimatedCost s.schemas net.operators[i] (net.timedUpTo world s i) := by
  obtain ⟨hi, -, -, -, hcost⟩ := entry_of_timed hmade hentry
  have hi' : i < net.operators.length := hmade.length ▸ hi
  exact ⟨hi', Option.some.inj (hcost.symm.trans (timed_turns hm hok ⟨i, hi'⟩).cost)⟩

/-- The world before the turn of the operator at a position in the first iteration of a benchmark,
which comes behind the warm up and the main runs. -/
def beforeTurn (net : Net Op) (world : World) (s : BenchmarkSetting) (i : Nat) : World :=
  let before := net.afterCalls world s.wholeRuns
  before.1.timedUpTo before.2 s i

/-- The shapes that the operator at a position reports right before its turn in the first iteration of
a benchmark. -/
def reportedShapes (net : Net Op) (world : World) (s : BenchmarkSetting) (i : Nat) : List Shape :=
  match (net.afterCalls world s.wholeRuns).1.operators[i]? with
  | some o => (Operator.inputShapes o.op (net.beforeTurn world s i)).1
  | none => []

/-- What it means that a benchmark of a net, which is made from a description, reports every cost in
the entry of its operator. The schemas were registered one after the other. -/
structure CostsInPlace (net : Net Op) (world : World) (spec : NetSpec) (schemas : List Schema)
    (s : BenchmarkSetting) (report : BenchmarkReport) : Prop where
  entries : s.individual = true →
    report.operators.map (fun entry => (entry.index, entry.name, entry.opType)) =
      List.ofFn fun i : Fin spec.ops.length =>
        ((i : Nat), (spec.resolvedSpec i).displayName, (spec.resolvedSpec i).opType)
  /-- The cost is what the function of the last schema of the type says, when the operator reports as
  many shapes as it has inputs right before its turn in the first iteration; otherwise there is none. -/
  cost : s.individual = true → 1 ≤ s.mainRuns → ∀ (i : Fin spec.ops.length) (entry : OperatorReport),
    report.operators[(i : Nat)]? = some entry → ∀ cost,
      (entry.cost = some cost ↔ ∃ schema f,
        schemas.reverse.find? (·.opType == (spec.resolvedSpec i).opType) = some schema ∧ schema.cost = some f ∧
        (net.reportedShapes world s i).length = (spec.resolvedSpec i).inputs.length ∧
        cost = f (spec.resolvedSpec i) (net.reportedShapes world s i))
  idle : s.individual = true → s.mainRuns = 0 →
    (∀ entry ∈ report.operators, entry.cost = none) ∧ report.breakdowns.map (·.metric) = Metric.all ∧
      ∀ breakdown ∈ report.breakdowns, breakdown.entries = []
  whole : s.individual = false → report.operators = [] ∧ report.breakdowns = []
  timings : report.timings.length = if s.individual then spec.ops.length + 1 else 1

end Net

/-- **The costs in a report are those of the operators in whose entries they stand**, for nets of
operators of any kind in any state, and schemas that were registered in any order. -/
theorem benchmarkReport_costs_in_place (net : Net Op) (world : World) (spec : NetSpec) (schemas : List Schema)
    (s : BenchmarkSetting) (report : BenchmarkReport) (hmade : net.MadeFrom spec)
    (hschemas : s.schemas = .ofSchemas schemas) (hok : (net.benchmarkReport world s).outcome = .ok report) :
    net.CostsInPlace world spec schemas s report := by
  obtain ⟨-, hreport⟩ := Net.benchmarkReport_ok hok
  have hbefore : (net.afterCalls world s.wholeRuns).1.MadeFrom spec := hmade.afterCalls world s.wholeRuns
  cases hi : s.individual with
  | false =>
    simp only [hi, Bool.false_eq_true, if_false] at hreport
    subst hreport
    exact ⟨by simp [hi], by simp [hi], by simp [hi], fun _ => ⟨rfl, rfl⟩, by simp [hi]; rfl⟩
  | true =>
    simp only [hi, if_true] at hreport
    obtain ⟨htimed, rfl⟩ := hreport
    have hlength := Net.length_of_timed (.ofMainRuns s.mainRuns (s.clock 0)) hbefore htimed
    refine ⟨fun _ => ?_, fun _ hm i entry hentry cost => ?_, fun _ => Net.idle_of_timed hbefore, by simp [hi], ?_⟩
    · refine List.ext_getElem (by simpa using hlength) fun i hlt _ => ?_
      obtain ⟨_, hindex, hname, htype, -⟩ := Net.entry_of_timed hbefore
        (List.getElem?_eq_getElem (by simpa using hlt))
      simp only [List.getElem_map, List.getElem_ofFn, hindex, hname, htype]
    · obtain ⟨hlt, hcost⟩ := Net.cost_of_timed hbefore htimed hm hentry
      have hshapes : net.reportedShapes world s i = (Operator.inputShapes
          (net.afterCalls world s.wholeRuns).1.operators[(i : Nat)].op (net.beforeTurn world s i)).1 := by
        simp only [Net.reportedShapes, List.getElem?_eq_getElem hlt]
      rw [hcost, estimatedCost_eq_some, ← Net.beforeTurn, ← hshapes, hbefore.spec_eq i hlt, hschemas,
        SchemaRegistry.costFunction?_ofSchemas]
      simp only [Option.bind_eq_some_iff]
      constructor
      · rintro ⟨f, ⟨schema, hschema, hf⟩, hlen, rfl⟩
        exact ⟨schema, f, hschema, hf, hlen, rfl⟩
      · rintro ⟨schema, f, hschema, hf, hlen, rfl⟩
        exact ⟨f, ⟨schema, hschema, hf⟩, hlen, rfl⟩
    · simp [BenchmarkReport.timings, hi, hlength]

/-! ## A tensor that changes its shape within an iteration -/

namespace Overwriting

def copying (input output : String) : OperatorSpec := { opType := "Copy", inputs := [input], outputs := [output] }

def rectifying (input output : String) : OperatorSpec := { opType := "Relu", inputs := [input], outputs := [output] }

/-- A description in which a tensor is written twice, and read before, between and behind. The last operator
has a device of its own. -/
def spec : NetSpec where
  name := "overwriting"
  ops := [rectifying "t" "u", copying "p" "t", rectifying "t" "v", copying "q" "t",
    { rectifying "t" "w" with deviceOption := some (.cuda 1) }]
  deviceOption := some (.cuda 7)

def operators : List Reference.RefOperator :=
  [.relu "t" "u", .copy "p" "t", .relu "t" "v", .copy "q" "t", .relu "t" "w"]

def net : Net Reference.RefOperator where
  name := "overwriting"
  operators := List.ofFn fun i : Fin 5 => ⟨spec.resolve i, operators[i]⟩

/-- The shape that the tensor is fed with is gone before anything is estimated. -/
def workspace : Workspace :=
  .feed (.feed (.feed .empty "q" ⟨⟨[2, 2]⟩, [1, 2, 3, 4]⟩) "p" ⟨⟨[3]⟩, [1, 2, 3]⟩) "t" ⟨⟨[5]⟩, [1, 2, 3, 4, 5]⟩

def sizeAndDevice : CostFunction := fun spec shapes =>
  { flops := .ofNat (shapes.foldl (fun total shape => total + shape.numel) 0)
    bytesMoved := .ofNat ((spec.deviceOption.map (·.deviceId.toNatClampNeg)).getD 0) }

def schemas : List Schema := [⟨"Relu", some Cost.pointwise⟩, ⟨"Copy", none⟩, ⟨"Relu", some sizeAndDevice⟩]

def setting : BenchmarkSetting := ⟨.ofSchemas schemas, 1, 1, true, fun _ => 0⟩

theorem costs_reported :
    (net.benchmarkReport workspace setting).outcome.toOption.map (fun report => report.operators.map (·.cost)) =
      some [some ⟨4, 7, 0⟩, none, some ⟨3, 7, 0⟩, none, some ⟨4, 1, 0⟩] := rfl

end Overwriting

open Overwriting in
theorem benchmarkReport_costs_in_place_overwriting :
    ∃ report, (Net.build spec Reference.factory ()).outcome = .ok net ∧
      (net.benchmarkReport workspace setting).outcome = .ok report ∧
      report.operators.map (·.cost) = [some ⟨4, 7, 0⟩, none, some ⟨3, 7, 0⟩, none, some ⟨4, 1, 0⟩] ∧
      (List.range 5).map (net.reportedShapes workspace setting) =
        [[⟨[2, 2]⟩], [⟨[3]⟩], [⟨[3]⟩], [⟨[2, 2]⟩], [⟨[2, 2]⟩]] ∧
      net.CostsInPlace workspace spec schemas setting report := by
  have hbuilt : (Net.build spec Reference.factory ()).outcome = .ok net := rfl
  have hcosts := costs_reported
  cases hreport : (net.benchmarkReport workspace setting).outcome with
  | error e => rw [hreport] at hcosts; cases hcosts
  | ok report =>
    rw [hreport] at hcosts
    exact ⟨report, hbuilt, rfl, Option.some.inj hcosts, rfl, benchmarkReport_costs_in_place net workspace spec
      schemas setting report (Net.build_madeFrom hbuilt) rfl hreport⟩

end Dataflow
