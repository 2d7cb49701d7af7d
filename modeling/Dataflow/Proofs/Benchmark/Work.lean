/-
The costs that a benchmark reports of reference operators are those of what the
operators do. A benchmark that succeeds has run every operator, so each has
computed its output at its turn in the first iteration from tensors of known
shapes (`timed_turn`), and its cost tells of this output (`costs_told`).
-/
import Dataflow.Proofs.Benchmark.Runs
import Dataflow.Proofs.Operator.Cost
import Dataflow.Proofs.Operator.Frame

namespace Dataflow.Reference

/-! ## Consistent workspaces -/

theorem run_consistent {ws : Workspace} (h : ws.Consistent) (op : RefOperator) :
    (Operator.run op ws).world.Consistent := by
  simp only [Operator.run, RefOperator.run]
  cases ht : op.compute ws with
  | error e => exact h
  | ok t => exact h.feed op.output (RefOperator.compute_consistent h ht)

theorem pass_consistent {position : Nat} {ops : List (NetOperator RefOperator)} {ws : Workspace} (h : ws.Consistent) :
    (pass position ops ws).world.Consistent := by
  induction ops generalizing position ws with
  | nil => exact h
  | cons o rest ih =>
    cases ho : (Operator.run o.op ws).failure with
    | some cause => rw [pass_cons_failed ho]; exact run_consistent h o.op
    | none => rw [pass_cons_ran ho]; exact ih (run_consistent h o.op)

/-- Calls of a net of reference operators leave its operators as they are and the workspace
consistent. -/
theorem afterCalls_kept (net : Net RefOperator) {ws : Workspace} (h : ws.Consistent) (t : Nat) :
    (net.afterCalls ws t).1.operators = net.operators ∧ (net.afterCalls ws t).2.Consistent := by
  induction t with
  | zero => exact ⟨rfl, h⟩
  | succ t ih =>
    obtain ⟨hops, hws⟩ := ih
    rw [Net.afterCalls_succ, Net.call, Net.run_operators, Net.run_world, pass_operators]
    exact ⟨hops, pass_consistent hws⟩

/-! ## The first iteration -/

variable {net : Net RefOperator} {ws : Workspace} {s : BenchmarkSetting}

/-- To ask an operator for shapes does not touch the workspace. -/
theorem costedTurn_eq (registry : SchemaRegistry) (o : NetOperator RefOperator) (ws : Workspace) :
    costedTurn registry o ws = Operator.run o.op ws := by
  unfold costedTurn
  cases registry.costFunction? o.spec.opType <;> rfl

/-- Operators that are timed at least once store their outputs at their turns in the first iteration. -/
theorem timed_turn (hm : 1 ≤ s.mainRuns) (hok : (net.timed ws s).failure = none) (i : Fin net.operators.length) :
    ∃ t, Stored net.operators[i] (net.timedUpTo ws s i) (net.timedUpTo ws s (i + 1)) t := by
  have hran := (Net.timed_turns hm hok i).ran
  have hnext : net.timedUpTo ws s (i + 1) = _ := costedUpTo_succ ..
  rw [costedTurn_eq] at hran hnext
  rw [hnext]
  exact stored_of_ran hran

/-- The workspace is consistent before every turn. -/
theorem timedUpTo_consistent (hm : 1 ≤ s.mainRuns) (hok : (net.timed ws s).failure = none) (h : ws.Consistent)
    {i : Nat} (hi : i ≤ net.operators.length) : (net.timedUpTo ws s i).Consistent := by
  induction i with
  | zero =>
    have hcleared : net.timedUpTo ws s 0 = ws :=
      (resetOperators_world 0 net.operators ws).symm.trans (Reference.unnoticed.resetOperators 0 net.operators ws)
    rw [hcleared]
    exact h
  | succ i ih =>
    obtain ⟨t, ht⟩ := timed_turn hm hok ⟨i, hi⟩
    have hbefore := ih (Nat.le_of_succ_le hi)
    rw [ht.stored]
    exact hbefore.feed _ (RefOperator.compute_consistent hbefore ht.computed)

/-! ## Reports -/

/-- **The costs that a benchmark reports are those of what the operators do.** -/
theorem benchmarkReport_costs_told {σ : Type} (spec : NetSpec) (state : σ) (net : Net RefOperator) (ws : Workspace)
    (s : BenchmarkSetting) (report : BenchmarkReport) (hbuilt : (Net.build spec factory state).outcome = .ok net)
    (hws : ws.Consistent) (hschemas : s.schemas = schemas) (hindividual : s.individual = true)
    (hm : 1 ≤ s.mainRuns) (hok : (net.benchmarkReport ws s).outcome = .ok report) :
    report.operators.length = net.operators.length ∧
      ∀ (i : Nat) (entry : OperatorReport), report.operators[i]? = some entry →
        ∃ o t, net.operators[i]? = some o ∧ Stored o (net.beforeTurn ws s i) (net.beforeTurn ws s (i + 1)) t ∧
          o.op.Told (net.beforeTurn ws s i) t entry.cost := by
  have hmade : net.MadeFrom spec := Net.build_madeFrom hbuilt
  obtain ⟨hops, hbefore⟩ := afterCalls_kept net hws s.wholeRuns
  have hmade' := hmade.afterCalls ws s.wholeRuns
  obtain ⟨-, hreport⟩ := Net.benchmarkReport_ok hok
  simp only [hindividual, if_true] at hreport
  obtain ⟨htimed, rfl⟩ := hreport
  refine ⟨by rw [Net.length_of_timed _ hmade' htimed, hmade.length], fun i entry hentry => ?_⟩
  obtain ⟨hi, hcost⟩ := Net.cost_of_timed hmade' htimed hm hentry
  obtain ⟨t, ht⟩ := timed_turn hm htimed ⟨i, hi⟩
  have hconsistent := timedUpTo_consistent hm htimed hbefore (Nat.le_of_lt hi)
  have hspec : ofSpec (net.afterCalls ws s.wholeRuns).1.operators[i].spec =
      .ok (net.afterCalls ws s.wholeRuns).1.operators[i].op := by
    have hmem : (net.afterCalls ws s.wholeRuns).1.operators[i] ∈ net.operators := hops ▸ List.getElem_mem hi
    obtain ⟨_, _, hspec⟩ := Net.build_made hbuilt _ hmem
    exact hspec
  refine ⟨_, t, ?_, ht, ?_⟩
  · rw [← hops]
    exact List.getElem?_eq_getElem hi
  · rw [hcost, hschemas]
    exact estimatedCost_told hspec hconsistent ht.computed

/-- One operator of each type. The first one gives its input another shape. -/
def mixed : List RefOperator := [.fullyConnected "x" "w" "b" "x", .relu "x" "y", .add "y" "x" "x", .copy "y" "z"]

def mixedInput : Workspace :=
  .feed (.feed (.feed .empty "b" ⟨⟨[2]⟩, [0, 0]⟩) "w" ⟨⟨[2, 2]⟩, [1, 0, 0, 1]⟩) "x" ⟨⟨[2]⟩, [1, 2]⟩

def mixedSetting : BenchmarkSetting := ⟨schemas, 1, 1, true, fun _ => 0⟩

theorem mixed_costs :
    ((netOf "mixed" mixed).benchmarkReport mixedInput mixedSetting).outcome.toOption.map
        (fun report => report.operators.map (·.cost)) =
      some [some ⟨8, 8, 24⟩, some ⟨2, 8, 0⟩, some ⟨2, 8, 0⟩, none] := rfl

theorem benchmarkReport_costs_told_mixed :
    ∃ report, ((netOf "mixed" mixed).benchmarkReport mixedInput mixedSetting).outcome = .ok report ∧
      report.operators.map (·.cost) = [some ⟨8, 8, 24⟩, some ⟨2, 8, 0⟩, some ⟨2, 8, 0⟩, none] ∧
      ∀ (i : Nat) (entry : OperatorReport), report.operators[i]? = some entry →
        ∃ o t, (netOf "mixed" mixed).operators[i]? = some o ∧
          o.op.Told ((netOf "mixed" mixed).beforeTurn mixedInput mixedSetting i) t entry.cost := by
  have hconsistent : mixedInput.Consistent :=
    ((Workspace.consistent_empty.feed "b" (by unfold Tensor.Consistent; rfl)).feed "w"
      (by unfold Tensor.Consistent; rfl)).feed "x" (by unfold Tensor.Consistent; rfl)
  have hcosts := mixed_costs
  cases hreport : ((netOf "mixed" mixed).benchmarkReport mixedInput mixedSetting).outcome with
  | error e => rw [hreport] at hcosts; cases hcosts
  | ok report =>
    rw [hreport] at hcosts
    obtain ⟨-, htold⟩ := benchmarkReport_costs_told (specOf "mixed" mixed) () (netOf "mixed" mixed) mixedInput
      mixedSetting report (build_specOf "mixed" mixed ()) hconsistent rfl rfl (by decide) hreport
    refine ⟨report, rfl, Option.some.inj hcosts, fun i entry hentry => ?_⟩
    obtain ⟨o, t, ho, -, hcost⟩ := htold i entry hentry
    exact ⟨o, t, ho, hcost⟩

end Dataflow.Reference
