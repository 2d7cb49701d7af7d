/-
What a net of reference operators does is decided by the shapes of the tensors
in its workspace, never by their values: whether it runs, where and why it
fails, the shapes it leaves, and the costs that a benchmark reports.
-/
import Dataflow.Proofs.Benchmark.Alike
import Dataflow.Proofs.Operator.Description
import Dataflow.Proofs.Operator.Shapes

namespace Dataflow.Reference

theorem SameShapes.benchmarksAlike : BenchmarksAlike RefOperator SameShapes where
  run := runsAlike
  reset _ _ _ h := h
  asked op _ _ h := ⟨congrArg (Option.getD · []) (h.shapes? op.reads), h⟩

/-- **Shapes decide.** On two workspaces that hold the same names with the same shapes, runs of a
net come to the same end and leave such workspaces again, and so do benchmarks, which report the
same costs whatever their clocks show. -/
theorem run_decided_by_shapes (net : Net RefOperator) {ws ws' : Workspace}
    (hshape : ∀ name, ws.shape? name = ws'.shape? name) (hws : ws.Consistent) (hws' : ws'.Consistent) :
    (net.run ws).outcome = (net.run ws').outcome ∧
      (∀ name, (net.run ws).world.shape? name = (net.run ws').world.shape? name) ∧
      ∀ (s : BenchmarkSetting) (clock : Clock),
        (net.benchmarkReport ws s).outcome.map BenchmarkReport.costs =
            (net.benchmarkReport ws' { s with clock }).outcome.map BenchmarkReport.costs ∧
          ∀ name, (net.benchmarkReport ws s).world.shape? name =
            (net.benchmarkReport ws' { s with clock }).world.shape? name := by
  have h : SameShapes ws ws' := ⟨hshape, hws, hws'⟩
  have hrun := SameShapes.runsAlike.run (Eq.refl net.operators) h
  refine ⟨hrun.outcome, hrun.world.shape, fun s clock => ?_⟩
  have hbench := SameShapes.benchmarksAlike.benchmarkReport s clock net h
  exact ⟨hbench.outcome, hbench.world.shape⟩

def layer : Net RefOperator := netOf "layer" [.fullyConnected "x" "w" "b" "y", .relu "y" "y"]

def layerInput (x₀ x₁ : Float32) : Workspace :=
  Workspace.feed (.feed (.feed .empty "b" ⟨⟨[1]⟩, [1]⟩) "w" ⟨⟨[1, 2]⟩, [3, -3]⟩) "x" ⟨⟨[1, 2]⟩, [x₀, x₁]⟩

theorem run_decided_by_shapes_layer :
    let setting : BenchmarkSetting := ⟨schemas, 1, 1, true, fun _ => 0⟩
    (∀ name, (layerInput 1 2).shape? name = (layerInput 5 8).shape? name) ∧
      (layerInput 1 2).Consistent ∧ (layerInput 5 8).Consistent ∧ (layer.run (layerInput 1 2)).outcome = .ok () ∧
      (layer.run (layerInput 5 8)).outcome = .ok () ∧
      (∀ name, (layer.run (layerInput 1 2)).world.shape? name = (layer.run (layerInput 5 8)).world.shape? name) ∧
      (layer.benchmarkReport (layerInput 1 2) setting).outcome.map BenchmarkReport.costs =
        (layer.benchmarkReport (layerInput 5 8) setting).outcome.map BenchmarkReport.costs := by
  intro setting
  have hshape : ∀ name, (layerInput 1 2).shape? name = (layerInput 5 8).shape? name := by
    intro name
    simp only [layerInput, Workspace.shape?_feed]
  have hconsistent : ∀ x₀ x₁, (layerInput x₀ x₁).Consistent := by
    intro x₀ x₁
    refine ((Workspace.consistent_empty.feed "b" ?_).feed "w" ?_).feed "x" ?_
    all_goals exact rfl
  have hrun : (layer.run (layerInput 1 2)).outcome = .ok () := by
    rw [Net.run_outcome]
    rfl
  obtain ⟨hout, hleft, hbench⟩ := run_decided_by_shapes layer hshape (hconsistent 1 2) (hconsistent 5 8)
  exact ⟨hshape, hconsistent 1 2, hconsistent 5 8, hrun, hout ▸ hrun, hleft, (hbench setting setting.clock).1⟩

end Dataflow.Reference
