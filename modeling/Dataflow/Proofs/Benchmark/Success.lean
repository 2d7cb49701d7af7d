/-
What a benchmark that succeeds has done: all its warm up and main runs have
succeeded, and where the operators were timed on their own, this began with what
these runs have left and did not fail either.
-/
import Dataflow.Benchmark.Run
import Dataflow.Proofs.Net.Calls

namespace Dataflow

variable {Op World : Type} [Operator Op World]

def BenchmarkSetting.wholeRuns (s : BenchmarkSetting) : Nat := s.warmupRuns.toNat + s.mainRuns.toNat

namespace Net

/-- The iterations that time the operators of a net on their own, from some world on. -/
def timed (net : Net Op) (world : World) (s : BenchmarkSetting) : Timed Op World :=
  timeIterations (some s.schemas) (fun k => s.clock (k + 1)) net.operators world s.mainRuns.toNat

theorem timeIndividually_ok {net : Net Op} {world : World} {s : BenchmarkSetting} {main report : BenchmarkReport}
    (h : (net.timeIndividually world s main).outcome = .ok report) :
    (net.timed world s).failure = none ∧ report = main.withOperators (net.timed world s) := by
  unfold timeIndividually at h
  unfold timed
  cases hf : (timeIterations (some s.schemas) (fun k => s.clock (k + 1)) net.operators world
      s.mainRuns.toNat).failure with
  | some e => simp only [hf] at h; cases h
  | none => simp only [hf] at h; cases h; exact ⟨rfl, rfl⟩

theorem mainRuns_ok {net : Net Op} {world : World} {s : BenchmarkSetting} {report : BenchmarkReport}
    (h : (net.mainRuns world s).outcome = .ok report) :
    (∀ t < s.mainRuns.toNat, (net.call world t).outcome = .ok ()) ∧
      let before := net.afterCalls world s.mainRuns.toNat
      let main := BenchmarkReport.ofMainRuns s.mainRuns (s.clock 0)
      if s.individual then
        (before.1.timed before.2 s).failure = none ∧ report = main.withOperators (before.1.timed before.2 s)
      else report = main := by
  unfold mainRuns at h
  cases ho : (net.runTimes world s.mainRuns.toNat).1.outcome with
  | error e => simp only [ho] at h; cases h
  | ok _ =>
    simp only [ho] at h
    have hcalls := runTimes_ok_iff.mp ho
    obtain ⟨-, -, hnet, hworld⟩ := runTimes_of_ok hcalls
    rw [hnet, hworld] at h
    refine ⟨hcalls, ?_⟩
    cases hi : s.individual with
    | false => simp only [hi, Bool.false_eq_true, if_false] at h ⊢; cases h; rfl
    | true => simp only [hi, if_true] at h ⊢; exact timeIndividually_ok h

/-- **What a benchmark that succeeds has done.** -/
theorem benchmarkReport_ok {net : Net Op} {world : World} {s : BenchmarkSetting} {report : BenchmarkReport}
    (h : (net.benchmarkReport world s).outcome = .ok report) :
    (∀ t < s.wholeRuns, (net.call world t).outcome = .ok ()) ∧
      let before := net.afterCalls world s.wholeRuns
      let main := BenchmarkReport.ofMainRuns s.mainRuns (s.clock 0)
      if s.individual then
        (before.1.timed before.2 s).failure = none ∧ report = main.withOperators (before.1.timed before.2 s)
      else report = main := by
  unfold benchmarkReport at h
  cases hc : s.check with
  | error e => simp only [hc] at h; cases h
  | ok _ =>
    simp only [hc] at h
    cases ho : (net.runTimes world s.warmupRuns.toNat).1.outcome with
    | error e => simp only [ho] at h; cases h
    | ok _ =>
      simp only [ho] at h
      have hcalls := runTimes_ok_iff.mp ho
      obtain ⟨-, -, hnet, hworld⟩ := runTimes_of_ok hcalls
      rw [hnet, hworld] at h
      obtain ⟨hmain, hreport⟩ := mainRuns_ok h
      refine ⟨fun t ht => ?_, ?_⟩
      · by_cases hwarm : t < s.warmupRuns.toNat
        · exact hcalls t hwarm
        · have hsplit : t = s.warmupRuns.toNat + (t - s.warmupRuns.toNat) := by omega
          rw [hsplit, call_add]
          unfold BenchmarkSetting.wholeRuns at ht
          exact hmain (t - s.warmupRuns.toNat) (by omega)
      · rw [BenchmarkSetting.wholeRuns, afterCalls_add]
        exact hreport

end Net

end Dataflow
