/-
Repeated runs of reference operators. When no operator writes a name that it or
an earlier one reads (`ReadsKept`), a second run finds under every name that it
reads what the first run found there, though the workspaces in between may
differ: a name that is written twice holds its last value already. So the
second run does what the first did (`pass_again`), and a benchmark, which is
runs in a row, leaves what one run leaves.
-/
import Dataflow.Proofs.Benchmark.Runs
import Dataflow.Proofs.Operator.Description
import Dataflow.Proofs.Operator.Frame

namespace Dataflow.Reference

/-- No operator writes a name that it or an earlier one reads. -/
structure ReadsKept (ops : List RefOperator) : Prop where
  own : ∀ op ∈ ops, op.output ∉ op.reads
  earlier : ops.Pairwise fun a b => b.output ∉ a.reads

theorem ReadsKept.tail {op : RefOperator} {rest : List RefOperator} (h : ReadsKept (op :: rest)) : ReadsKept rest :=
  ⟨fun op' hop' => h.own op' (by simp [hop']), (List.pairwise_cons.mp h.earlier).2⟩

theorem ReadsKept.head {op : RefOperator} {rest : List RefOperator} (h : ReadsKept (op :: rest)) {name : String}
    (hread : name ∈ op.reads) : ∀ op' ∈ op :: rest, op'.output ≠ name := by
  rintro op' hop' rfl
  rcases List.mem_cons.mp hop' with rfl | hrest
  · exact h.own op' hop' hread
  · exact (List.pairwise_cons.mp h.earlier).1 op' hrest hread

/-! ## Passes -/

/-- **A pass from between its beginning and its end does the same again.** From a workspace that holds
under every name what the pass began with or what it ended with, and what it began with under the
names that it does not write, a pass comes to the same end. -/
theorem pass_again {position : Nat} {ops : List (NetOperator RefOperator)} {v w : Workspace}
    (hkept : ReadsKept (ops.map NetOperator.op))
    (hunwritten : ∀ name, (∀ o ∈ ops, o.op.output ≠ name) → v.get? name = w.get? name)
    (hbetween : ∀ name, v.get? name = w.get? name ∨ v.get? name = (pass position ops w).world.get? name) :
    pass position ops v = pass position ops w := by
  induction ops generalizing position v w with
  | nil =>
    have hvw : v = w := NameMap.ext_get? fun name => hunwritten name (by simp)
    rw [hvw]
  | cons o rest ih =>
    have hcompute : o.op.compute v = o.op.compute w := by
      refine o.op.compute_congr fun name hread => hunwritten name fun o' ho' => ?_
      exact hkept.head hread o'.op (List.mem_map_of_mem ho')
    cases h : o.op.compute w with
    | error cause =>
      -- Nothing has been written, so the two ends of the pass are the same.
      rw [pass_cons_refused h] at hbetween
      have hvw : v = w := NameMap.ext_get? fun name => (hbetween name).elim id id
      rw [hvw]
    | ok t =>
      rw [pass_cons_stored h] at hbetween ⊢
      rw [pass_cons_stored (hcompute.trans h)]
      have hrest : pass (position + 1) rest (v.feed o.op.output t) =
          pass (position + 1) rest (w.feed o.op.output t) := by
        refine ih hkept.tail (fun name hlater => ?_) fun name => ?_
        · refine Workspace.get?_feed_congr t fun hname => ?_
          exact hunwritten name (List.forall_mem_cons.mpr ⟨hname.symm, hlater⟩)
        · by_cases hname : name = o.op.output
          · exact .inl (Workspace.get?_feed_congr t fun hother => absurd hname hother)
          · rw [v.get?_feed_other t hname, w.get?_feed_other t hname]
            exact hbetween name
      rw [hrest]

theorem pass_pass {position : Nat} {ops : List (NetOperator RefOperator)} (h : ReadsKept (ops.map NetOperator.op))
    (ws : Workspace) : pass position ops (pass position ops ws).world = pass position ops ws :=
  pass_again h (fun _ hname => pass_frame hname) fun _ => .inr rfl

/-! ## Calls in a row -/

/-- All calls do what the first one does. -/
theorem afterCalls_pass {net : Net RefOperator} (h : ReadsKept (net.operators.map NetOperator.op)) (ws : Workspace)
    (t : Nat) : pass 0 (net.afterCalls ws t).1.operators (net.afterCalls ws t).2 = pass 0 net.operators ws := by
  induction t with
  | zero => rfl
  | succ t ih =>
    have hops : (net.call ws t).net.operators = net.operators := by
      rw [Net.call, Net.run_operators, ih, pass_operators]
    have hworld : (net.call ws t).world = (pass 0 net.operators ws).world := by
      rw [Net.call, Net.run_world, ih]
    rw [Net.afterCalls_succ, hops, hworld, pass_pass h ws]

theorem call_outcome {net : Net RefOperator} (h : ReadsKept (net.operators.map NetOperator.op)) (ws : Workspace)
    (t : Nat) : (net.call ws t).outcome = (net.run ws).outcome := by
  rw [Net.call, Net.run_outcome, Net.run_outcome, afterCalls_pass h ws t]

theorem call_world {net : Net RefOperator} (h : ReadsKept (net.operators.map NetOperator.op)) (ws : Workspace)
    (t : Nat) : (net.call ws t).world = (net.run ws).world := by
  rw [Net.call, Net.run_world, Net.run_world, afterCalls_pass h ws t]

/-- A benchmark that runs the operators at all succeeds when one run does, and leaves what one run
leaves. -/
theorem benchmarkReport_once {net : Net RefOperator} (h : ReadsKept (net.operators.map NetOperator.op))
    (ws : Workspace) {s : BenchmarkSetting} (hw : 0 ≤ s.warmupRuns) (hm : 0 ≤ s.mainRuns) (hruns : 0 < s.runs) :
    ((∃ report, (net.benchmarkReport ws s).outcome = .ok report) ↔ (net.run ws).outcome = .ok ()) ∧
      (net.benchmarkReport ws s).world = (net.run ws).world := by
  have hb := Reference.unnoticed.benchmarkIsRuns net ws s
  have hok : (∀ t < s.runs, (net.call ws t).outcome = .ok ()) ↔ (net.run ws).outcome = .ok () := by
    simp only [call_outcome h ws]
    exact ⟨fun hrun => hrun 0 hruns, fun hrun _ _ => hrun⟩
  refine ⟨(hb.succeeds hw hm).trans hok, ?_⟩
  cases hrun : (net.run ws).outcome with
  | ok _ =>
    obtain ⟨last, hlast⟩ := Nat.exists_eq_succ_of_ne_zero (Nat.pos_iff_ne_zero.mp hruns)
    rw [(hb.ran hw hm (hok.mpr hrun)).2, hlast]
    exact call_world h ws last
  | error e => exact (hb.failed hw hm 0 hruns (by omega) e hrun).2.1

/-- **Repeated runs change nothing** when no operator writes a name that it or an earlier one reads:
a second run comes to the same end as the first and leaves what that has left. So does a benchmark
of any number of runs, with or without the timing of single operators. -/
theorem run_again (net : Net RefOperator) (h : ReadsKept (net.operators.map NetOperator.op)) (ws : Workspace) :
    (((net.run ws).net.run (net.run ws).world).outcome = (net.run ws).outcome ∧
      ((net.run ws).net.run (net.run ws).world).world = (net.run ws).world) ∧
    ∀ s : BenchmarkSetting, 0 ≤ s.warmupRuns → 0 ≤ s.mainRuns → ¬ (s.warmupRuns = 0 ∧ s.mainRuns = 0) →
      ((∃ timings, (net.benchmark ws s).outcome = .ok timings) ↔ (net.run ws).outcome = .ok ()) ∧
        (net.benchmark ws s).world = (net.run ws).world := by
  refine ⟨⟨call_outcome h ws 1, call_world h ws 1⟩, fun s hw hm hsome => ?_⟩
  have hruns : 0 < s.runs := by
    unfold BenchmarkSetting.runs
    omega
  obtain ⟨hiff, hworld⟩ := benchmarkReport_once h ws hw hm hruns
  exact ⟨net.benchmark_ok_iff.trans hiff, hworld⟩

/-- A net that writes a name twice before it reads it, so that a second run does not find on its way
what the first one found. -/
def twice : Net RefOperator := netOf "twice" [.relu "x" "y", .copy "x" "y", .add "y" "x" "z"]

theorem run_again_twice :
    let ws := Workspace.feed .empty "x" ⟨⟨[2]⟩, [1, -1]⟩
    let setting : BenchmarkSetting := ⟨schemas, 0, 1, true, fun _ => 0⟩
    ReadsKept (twice.operators.map NetOperator.op) ∧ (twice.run ws).outcome = .ok () ∧
      ((twice.run ws).net.run (twice.run ws).world).outcome = .ok () ∧
      ((twice.run ws).net.run (twice.run ws).world).world = (twice.run ws).world ∧
      (∃ timings, (twice.benchmark ws setting).outcome = .ok timings) ∧
      (twice.benchmark ws setting).world = (twice.run ws).world := by
  intro ws setting
  have h : ReadsKept (twice.operators.map NetOperator.op) := by
    rw [twice, netOf_operators]
    exact ⟨by decide, by decide⟩
  have hrun : (twice.run ws).outcome = .ok () := by
    rw [Net.run_outcome]
    rfl
  obtain ⟨⟨houtcome, hworld⟩, hbench⟩ := run_again twice h ws
  obtain ⟨hiff, hleft⟩ := hbench setting (by decide) (by decide) (by decide)
  exact ⟨h, hrun, houtcome.trans hrun, hworld, hiff.mpr hrun, hleft⟩

end Dataflow.Reference
