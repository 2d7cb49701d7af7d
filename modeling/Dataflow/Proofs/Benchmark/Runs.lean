/-
A benchmark is nothing but runs in a row. Its phases (warm up runs, main runs,
and iterations that time every operator on its own) do what the runs of
`Net.runTimes` do, one phase behind the other (`Amounts.phase`), and the first
run that fails decides about the error. So a benchmark leaves what as many
calls of `run` leave that stop at the first failure.
-/
import Dataflow.Operator.Reference
import Dataflow.Operator.Scripted
import Dataflow.Proofs.Benchmark.Iterations

namespace Dataflow

variable {Op World : Type} [Operator Op World] {R : World → World → Prop}

/-! ## Phases -/

/-- A call that does what runs in a row do. If one of them fails, `wrap` makes the error of the call
out of that of the run and the number of runs before it. -/
structure Amounts {α : Type} (R : World → World → Prop) (wrap : Nat → NetError → NetError)
    (after : After Op World α) (runs : After Op World Unit × Nat) : Prop where
  operators : after.net.operators = runs.1.net.operators
  world : R after.world runs.1.world
  outcome :
    match runs.1.outcome with
    | .ok () => ∃ value, after.outcome = .ok value
    | .error e => after.outcome = .error (wrap runs.2 e)

/-- A phase of runs that wraps their errors by `fail`, and what comes after it. -/
theorem Amounts.phase {α : Type} (fail rest : Nat → NetError → NetError) {count more : Nat} {net : Net Op}
    {w : World} {after : After Op World α} (hR : ∀ w, R w w)
    (failed : ∀ e, (net.runTimes w count).1.outcome = .error e →
      after.net = (net.runTimes w count).1.net ∧ after.world = (net.runTimes w count).1.world ∧
        after.outcome = .error (fail (net.runTimes w count).2 e))
    (ran : (net.runTimes w count).1.outcome = .ok () → Amounts R rest after
      ((net.runTimes w count).1.net.runTimes (net.runTimes w count).1.world more)) :
    Amounts R (fun t e => if t < count then fail t e else rest (t - count) e) after
      (net.runTimes w (count + more)) := by
  rw [Net.runTimes_add]
  cases h : (net.runTimes w count).1.outcome with
  | error e =>
    obtain ⟨hnet, hworld, hout⟩ := failed e h
    have hlt := Net.runTimes_count_lt h
    refine ⟨by rw [hnet], by rw [hworld]; exact hR _, ?_⟩
    simp only [h, hlt, if_true, hout]
  | ok _ =>
    obtain ⟨hops, hworld, hout⟩ := ran h
    have hge : ∀ k, ¬ count + k < count := by omega
    refine ⟨hops, hworld, ?_⟩
    simp only [hge, if_false, Nat.add_sub_cancel_left]
    exact hout

/-- What a benchmark makes of the error of its run number `t`, counted from zero over all phases. -/
def BenchmarkSetting.errorOf (s : BenchmarkSetting) (t : Nat) (e : NetError) : NetError :=
  if t < s.warmupRuns.toNat then .warmupFailed t e
  else if t < s.warmupRuns.toNat + s.mainRuns.toNat then .mainRunFailed (t - s.warmupRuns.toNat) e
  else e

def BenchmarkSetting.iterations (s : BenchmarkSetting) : Nat := if s.individual then s.mainRuns.toNat else 0

/-- How often a benchmark runs the operators, if none fails. -/
def BenchmarkSetting.runs (s : BenchmarkSetting) : Nat :=
  s.warmupRuns.toNat + (s.mainRuns.toNat + s.iterations)

namespace Unnoticed

theorem timeIndividually (h : Unnoticed Op R) (net : Net Op) (w : World) (s : BenchmarkSetting)
    (report : BenchmarkReport) :
    Amounts R (fun _ e => e) (net.timeIndividually w s report) (net.runTimes w s.mainRuns.toNat) := by
  have ht := h.timeIterations s.mainRuns.toNat (some s.schemas) (fun k => s.clock (k + 1)) net
    (h.equivalence.refl w)
  have hfail := ht.failure
  unfold Net.timeIndividually
  cases ho : (net.runTimes w s.mainRuns.toNat).1.outcome with
  | error e =>
    simp only [Timed.effect, After.effect, ho] at hfail
    simp only [hfail]
    exact ⟨ht.operators, ht.world, by simp only [ho]⟩
  | ok _ =>
    simp only [Timed.effect, After.effect, ho] at hfail
    simp only [hfail]
    exact ⟨ht.operators, ht.world, by simp only [ho]; exact ⟨_, rfl⟩⟩

theorem mainRuns (h : Unnoticed Op R) (net : Net Op) (w : World) (s : BenchmarkSetting) :
    Amounts R (fun t e => if t < s.mainRuns.toNat then .mainRunFailed t e else e) (net.mainRuns w s)
      (net.runTimes w (s.mainRuns.toNat + s.iterations)) := by
  refine Amounts.phase .mainRunFailed (fun _ e => e) h.equivalence.refl (fun e ho => ?_) fun ho => ?_
  · simp only [Net.mainRuns, ho, and_self]
  · simp only [Net.mainRuns, ho, BenchmarkSetting.iterations]
    cases s.individual with
    | true =>
      have ht := h.timeIndividually (net.runTimes w s.mainRuns.toNat).1.net
        (net.runTimes w s.mainRuns.toNat).1.world s (.ofMainRuns s.mainRuns (s.clock 0))
      exact ⟨ht.operators, ht.world, ht.outcome⟩
    | false => exact ⟨rfl, h.equivalence.refl _, _, rfl⟩

/-- A benchmark whose counts are not negative does what as many runs in a row do. -/
theorem benchmarkReport (h : Unnoticed Op R) (net : Net Op) (w : World) {s : BenchmarkSetting}
    (hs : s.check = .ok ()) : Amounts R s.errorOf (net.benchmarkReport w s) (net.runTimes w s.runs) := by
  let mainError : Nat → NetError → NetError := fun t e => if t < s.mainRuns.toNat then .mainRunFailed t e else e
  have hwrap : s.errorOf =
      fun t e => if t < s.warmupRuns.toNat then .warmupFailed t e else mainError (t - s.warmupRuns.toNat) e := by
    funext t e
    simp only [BenchmarkSetting.errorOf, mainError]
    by_cases ht : t < s.warmupRuns.toNat
    · simp only [ht, if_true]
    · have hiff : t < s.warmupRuns.toNat + s.mainRuns.toNat ↔ t - s.warmupRuns.toNat < s.mainRuns.toNat := by omega
      simp only [ht, if_false, hiff]
  rw [hwrap]
  refine Amounts.phase .warmupFailed mainError h.equivalence.refl (fun e ho => ?_) fun ho => ?_
  · simp only [Net.benchmarkReport, hs, ho, and_self]
  · have hm := h.mainRuns (net.runTimes w s.warmupRuns.toNat).1.net (net.runTimes w s.warmupRuns.toNat).1.world s
    simp only [Net.benchmarkReport, hs, ho]
    exact ⟨hm.operators, hm.world, hm.outcome⟩

end Unnoticed

/-! ## The kinds of operators -/

/-- Journals that tell of the same runs in the same order. -/
structure Scripted.Journal.SameRuns (j j' : Journal) : Prop where
  entries : j.entries = j'.entries
  runs : j.runs = j'.runs

theorem Scripted.unnoticed : Unnoticed Actor Journal.SameRuns where
  equivalence := ⟨fun _ => ⟨rfl, rfl⟩, fun h => ⟨h.entries.symm, h.runs.symm⟩,
    fun h h' => ⟨h.entries.trans h'.entries, h.runs.trans h'.runs⟩⟩
  run a j j' h := by
    simp only [Operator.run, Actor.run]
    cases a.isSpent with
    | true => exact ⟨rfl, rfl, by simp [h.entries], by simp [h.runs]⟩
    | false => exact ⟨rfl, rfl, by simp [h.entries], by simp [h.runs]⟩
  reset _ _ := ⟨rfl, rfl⟩
  asked _ _ := ⟨rfl, rfl⟩

theorem Reference.unnoticed : Unnoticed RefOperator (Eq (α := Workspace)) where
  equivalence := ⟨fun _ => rfl, Eq.symm, Eq.trans⟩
  run _ _ _ h := by rw [h]; exact ⟨rfl, rfl, rfl⟩
  reset _ _ := rfl
  asked _ _ := rfl

/-! ## The benchmark -/

theorem BenchmarkSetting.check_eq (s : BenchmarkSetting) :
    s.check =
      if s.warmupRuns < 0 then .error (.invalidRunCount .warmup s.warmupRuns)
      else if s.mainRuns < 0 then .error (.invalidRunCount .main s.mainRuns)
      else .ok () := by
  simp only [BenchmarkSetting.check, checkRunCount]
  split
  · rfl
  · split <;> rfl

theorem BenchmarkSetting.check_ok (s : BenchmarkSetting) (hw : 0 ≤ s.warmupRuns) (hm : 0 ≤ s.mainRuns) :
    s.check = .ok () := by
  rw [s.check_eq, if_neg (by omega), if_neg (by omega)]

theorem BenchmarkSetting.check_refused (s : BenchmarkSetting) (hneg : s.warmupRuns < 0 ∨ s.mainRuns < 0) :
    s.check = .error (if s.warmupRuns < 0 then .invalidRunCount .warmup s.warmupRuns
      else .invalidRunCount .main s.mainRuns) := by
  rw [s.check_eq]
  by_cases hw : s.warmupRuns < 0
  · simp only [hw, if_true]
  · have hm : s.mainRuns < 0 := hneg.resolve_left hw
    simp only [hw, hm, if_true, if_false]

/-- What it means that a benchmark is the same as calls of `run` in a row, up to worlds that `R`
relates. -/
structure Net.BenchmarkIsRuns (R : World → World → Prop) (net : Net Op) (w : World) (s : BenchmarkSetting) :
    Prop where
  refused : s.warmupRuns < 0 ∨ s.mainRuns < 0 →
    (net.benchmarkReport w s).outcome = .error (if s.warmupRuns < 0 then .invalidRunCount .warmup s.warmupRuns
      else .invalidRunCount .main s.mainRuns) ∧
    (net.benchmarkReport w s).net = net ∧ (net.benchmarkReport w s).world = w ∧
    ∀ event ∈ (net.benchmarkReport w s).events, ∃ entry, event = .log entry
  /-- Unless a count is negative, the benchmark succeeds exactly when no call fails. -/
  succeeds : 0 ≤ s.warmupRuns → 0 ≤ s.mainRuns →
    ((∃ report, (net.benchmarkReport w s).outcome = .ok report) ↔
      ∀ t < s.runs, (net.call w t).outcome = .ok ())
  ran : 0 ≤ s.warmupRuns → 0 ≤ s.mainRuns → (∀ t < s.runs, (net.call w t).outcome = .ok ()) →
    (net.benchmarkReport w s).net.operators = (net.afterCalls w s.runs).1.operators ∧
    R (net.benchmarkReport w s).world (net.afterCalls w s.runs).2
  /-- Otherwise the benchmark leaves what the first call that fails leaves, whose phase decides about the error. -/
  failed : 0 ≤ s.warmupRuns → 0 ≤ s.mainRuns → ∀ t < s.runs, (∀ u < t, (net.call w u).outcome = .ok ()) →
    ∀ e, (net.call w t).outcome = .error e →
      (net.benchmarkReport w s).net.operators = (net.call w t).net.operators ∧
      R (net.benchmarkReport w s).world (net.call w t).world ∧
      (net.benchmarkReport w s).outcome = .error (s.errorOf t e) ∧
      ∃ p, ∃ hp : p < net.operators.length, ∃ cause,
        e = net.operators[p].failed p cause ∧ (s.errorOf t e).failedPosition = some p

theorem BenchmarkSetting.failedPosition_errorOf (s : BenchmarkSetting) (t : Nat) (e : NetError) :
    (s.errorOf t e).failedPosition = e.failedPosition := by
  unfold BenchmarkSetting.errorOf
  split
  · rfl
  · split <;> rfl

theorem Unnoticed.benchmarkIsRuns (h : Unnoticed Op R) (net : Net Op) (w : World) (s : BenchmarkSetting) :
    net.BenchmarkIsRuns R w s where
  refused hneg := by
    have hb : net.benchmarkReport w s = ⟨net, w, [benchmarkLog .info "Starting benchmark."],
        .error (if s.warmupRuns < 0 then .invalidRunCount .warmup s.warmupRuns
          else .invalidRunCount .main s.mainRuns)⟩ := by
      simp only [Net.benchmarkReport, s.check_refused hneg]
    rw [hb]
    exact ⟨rfl, rfl, rfl, fun event he => ⟨_, List.mem_singleton.mp he⟩⟩
  succeeds hw hm := by
    have hb := (h.benchmarkReport net w (s.check_ok hw hm)).outcome
    rw [← Net.runTimes_ok_iff]
    cases ho : (net.runTimes w s.runs).1.outcome with
    | ok _ =>
      simp only [ho] at hb
      exact iff_of_true hb rfl
    | error e =>
      simp only [ho] at hb
      refine iff_of_false ?_ (by simp)
      rintro ⟨report, hr⟩
      rw [hb] at hr
      cases hr
  ran hw hm hok := by
    have hb := h.benchmarkReport net w (s.check_ok hw hm)
    obtain ⟨-, -, hnet, hworld⟩ := Net.runTimes_of_ok hok
    rw [← hnet, ← hworld]
    exact ⟨hb.operators, hb.world⟩
  failed hw hm t ht before e he := by
    have hb := h.benchmarkReport net w (s.check_ok hw hm)
    obtain ⟨hcount, herr, hnet, hworld⟩ := Net.runTimes_of_error ht before he
    obtain ⟨p, hp, cause, hcause⟩ := Net.call_error he
    have hout := hb.outcome
    simp only [herr, hcount] at hout
    rw [← hnet, ← hworld]
    refine ⟨hb.operators, hb.world, hout, p, hp, cause, hcause, ?_⟩
    rw [s.failedPosition_errorOf, hcause]
    rfl

/-- A benchmark has timings exactly when it has a report. -/
theorem Net.benchmark_ok_iff (net : Net Op) {w : World} {s : BenchmarkSetting} :
    (∃ timings, (net.benchmark w s).outcome = .ok timings) ↔
      ∃ report, (net.benchmarkReport w s).outcome = .ok report := by
  unfold Net.benchmark
  cases h : (net.benchmarkReport w s).outcome with
  | error e => simp [h, Except.map]
  | ok report => simp [h, Except.map]

/-- **A benchmark is the same as running the net again and again**, for scripted and for reference
operators in any state: scripted operators keep their counts of successes and their journal tells of
the same runs, reference operators leave the same workspace. -/
theorem benchmarkReport_is_runs :
    (∀ (net : Net Scripted.Actor) (j : Scripted.Journal) (s : BenchmarkSetting),
      net.BenchmarkIsRuns Scripted.Journal.SameRuns j s) ∧
    (∀ (net : Net Reference.RefOperator) (ws : Workspace) (s : BenchmarkSetting),
      net.BenchmarkIsRuns Eq ws s) :=
  ⟨fun net j s => Scripted.unnoticed.benchmarkIsRuns net j s,
    fun net ws s => Reference.unnoticed.benchmarkIsRuns net ws s⟩

-- The third run of the operators fails, which is the first to time them one by one.
example :
    let work : NetOperator Scripted.Actor := ⟨.copy { opType := "Work", name := "a" }, { name := "a", limit := some 2 }⟩
    let net : Net Scripted.Actor := { name := "net", operators := [work] }
    (net.benchmarkReport {} ⟨.empty, 1, 1, true, fun _ => 0⟩).outcome = .error (work.failed 0 (.scripted "a")) := rfl

end Dataflow
