/-
What runs and benchmarks tell observers and operators. A whole run starts its
observers, runs its operators and stops the observers when none has failed
(`Net.run_told`); a benchmark does so for each of its whole runs, and for the
operators that it times on their own it tells no observer
(`Net.benchmarkReport_told`).
-/
import Dataflow.Proofs.Benchmark.Hooks

namespace Dataflow

variable {Op World : Type} [Operator Op World]

/-! ## Whole runs -/

/-- A run of all operators of a net, as those hear of it who are attached. -/
structure WholeRun where
  labels : List String
  turns : Nat
  succeeded : Bool
  deriving DecidableEq

namespace WholeRun

/-- All observers hear of the start before any operator runs, and of the stop behind the last one when
none has failed. -/
def events (r : WholeRun) : List Event :=
  r.labels.map .observerStart ++ (List.range r.turns).map .operatorRun ++
    if r.succeeded then r.labels.map .observerStop else []

end WholeRun

namespace Net

def wholeRun (net : Net Op) (world : World) (labels : List String) : WholeRun where
  labels := labels
  turns :=
    match (net.run world).outcome with
    | .ok () => net.operators.length
    | .error e => e.failedPosition.elim 0 (· + 1)
  succeeded := (net.run world).outcome.isOk

/-- Runs in a row that some observers hear of: each but the first is started only when the one before
it has succeeded. -/
def runsInRow (net : Net Op) (world : World) (labels : List String) : Nat → List WholeRun
  | 0 => []
  | count + 1 =>
    net.wholeRun world labels ::
      if (net.run world).outcome.isOk then
        (net.run world).net.runsInRow (net.run world).world labels count
      else []

/-- The whole runs of a benchmark that some observers hear of: those that warm up and then the main runs,
and none when one of the counts is negative. -/
def benchmarkRuns (net : Net Op) (world : World) (labels : List String) (s : BenchmarkSetting) : List WholeRun :=
  if s.warmupRuns < 0 ∨ s.mainRuns < 0 then []
  else net.runsInRow world labels (s.warmupRuns.toNat + s.mainRuns.toNat)

end Net

/-! ## What is told of runs -/

/-- Whether an event tells an observer or an operator to act. -/
def Event.isTold : Event → Bool
  | .observerStart _ | .observerStop _ | .operatorRun _ => true
  | _ => false

def told (events : List Event) : List Event := events.filter Event.isTold

@[simp] theorem told_nil : told [] = [] := rfl

@[simp] theorem told_append (before behind : List Event) : told (before ++ behind) = told before ++ told behind :=
  List.filter_append ..

@[simp] theorem told_benchmarkLog_cons (level : Level) (message : String) (events : List Event) :
    told (benchmarkLog level message :: events) = told events := rfl

theorem told_hooks (events : List Event) : told (hooks events) = told events := by
  rw [told, hooks, List.filter_filter, told]
  refine List.filter_congr fun e _ => ?_
  cases e <;> rfl

theorem told_eq_self {events : List Event} (h : ∀ e ∈ events, e.isTold = true) : told events = events :=
  List.filter_eq_self.mpr h

theorem told_started (observers : Observers) : told observers.started = observers.labels.map .observerStart :=
  told_eq_self (List.forall_mem_map.mpr fun _ _ => rfl)

theorem told_stopped (observers : Observers) : told observers.stopped = observers.labels.map .observerStop :=
  told_eq_self (List.forall_mem_map.mpr fun _ _ => rfl)

theorem told_turns (setting : RunSetting) (p : Profiler) (position : Nat) (ops : List (NetOperator Op)) :
    told (setting.events p position ops) = (List.range' position ops.length).map .operatorRun := by
  induction ops generalizing p position with
  | nil => rfl
  | cons o rest ih =>
    have hturn : told (setting.turnEvents p 0 position o) = [.operatorRun position] := by
      unfold RunSetting.turnEvents
      cases setting.ranges <;> rfl
    rw [setting.events_cons, told_append, hturn, ih]
    rfl

namespace Net

/-- **A run tells its observers and operators what it is to tell them**, whether it fails or not. -/
theorem run_told (net : Net Op) (world : World) :
    told (net.run world).events = (net.wholeRun world net.observers.labels).events := by
  have hturns := net.run_in_turns world
  have hcalls : told (net.run world).events = told (calls (net.run world).events) := by
    rw [← told_hooks, ← hooks_calls, told_hooks]
  rw [hcalls, WholeRun.events, wholeRun]
  rcases hturns.decided with hran | ⟨p, cause, hp⟩
  · obtain ⟨hok, hevents, -⟩ := hturns.ran hran
    rw [hevents, hok, turns, List.take_length]
    simp only [told_append, told_started, told_turns, told_stopped, List.range_eq_range']
    rfl
  · obtain ⟨hfailed, hevents, -⟩ := hturns.failed p cause hp
    have hlength : (net.operators.take (p + 1)).length = p + 1 := by
      rw [List.length_take]
      omega
    rw [hevents, hfailed, turns]
    simp only [told_append, told_started, told_turns, hlength, List.range_eq_range']
    exact (List.append_nil _).symm

theorem runTimes_told (net : Net Op) (world : World) (count : Nat) :
    told (net.runTimes world count).1.events =
      (net.runsInRow world net.observers.labels count).flatMap WholeRun.events := by
  induction count generalizing net world with
  | zero => rfl
  | succ count ih =>
    have hfirst := net.run_told world
    cases ho : (net.run world).outcome with
    | error e =>
      rw [runTimes_succ_of_error ho, hfirst, runsInRow, ho]
      exact (List.append_nil _).symm
    | ok _ =>
      have hlater := ih (net.run world).net (net.run world).world
      rw [run_observers] at hlater
      rw [runTimes_succ_of_ok ho, told_append, hfirst, hlater, runsInRow, ho]
      rfl

end Net

/-! ## What is told of individual runs -/

theorem told_estimate (setting : TimingSetting) (position : Nat) (o : NetOperator Op) (world : World) :
    told (setting.estimate position o world).2.2 = [] := by
  rw [← told_hooks, estimate_hooks]
  cases o.isCosted setting.schemas <;> rfl

theorem told_resets (ops : List (NetOperator Op)) (world : World) : told (resetOperators 0 ops world).2 = [] := by
  refine List.filter_eq_nil_iff.mpr fun e he => ?_
  rw [resetOperators_events] at he
  obtain ⟨i, -, rfl⟩ := List.mem_map.mp he
  simp [Event.isTold]

/-- Operators that are timed run, and no observer hears of it. -/
theorem timeOperators_told (setting : TimingSetting) (first : Nat) (ops : List (NetOperator Op)) (world : World) :
    ∃ positions : List Nat, told (timeOperators setting first ops world).events = positions.map .operatorRun := by
  induction ops generalizing first world with
  | nil => exact ⟨[], rfl⟩
  | cons o rest ih =>
    cases ho : (Operator.run o.op (setting.estimate first o world).2.1).failure with
    | some cause =>
      rw [timeOperators_cons_failed ho]
      refine ⟨[first], ?_⟩
      rw [told_append, told_estimate]
      rfl
    | none =>
      obtain ⟨later, hlater⟩ := ih (first + 1) (Operator.run o.op (setting.estimate first o world).2.1).world
      rw [timeOperators_cons_ran ho]
      refine ⟨first :: later, ?_⟩
      rw [told_append, told_append, told_estimate, hlater]
      rfl

theorem timeIterations_told (schemas : Option SchemaRegistry) (clock : Clock) (ops : List (NetOperator Op))
    (world : World) (count : Nat) :
    ∃ positions : List Nat, told (timeIterations schemas clock ops world count).events =
      positions.map .operatorRun := by
  induction count generalizing schemas clock ops world with
  | zero => exact ⟨[], rfl⟩
  | succ count ih =>
    obtain ⟨first, hfirst⟩ : ∃ positions : List Nat,
        told (firstIteration schemas clock ops world).events = positions.map .operatorRun :=
      timeOperators_told ..
    cases hf : (firstIteration schemas clock ops world).failure with
    | some e =>
      rw [timeIterations_succ_failed hf]
      refine ⟨first, ?_⟩
      rw [told_append, told_resets, hfirst]
      rfl
    | none =>
      obtain ⟨later, hlater⟩ := ih none (fun k => clock (k + ops.length))
        (firstIteration schemas clock ops world).operators (firstIteration schemas clock ops world).world
      rw [timeIterations_succ_ran hf]
      refine ⟨first ++ later, ?_⟩
      rw [told_append, told_append, told_resets, hfirst, hlater, List.map_append]
      rfl

/-! ## What is told of benchmarks -/

namespace Net

theorem runTimes_observers (net : Net Op) (world : World) (count : Nat) :
    (net.runTimes world count).1.net.observers = net.observers := by
  induction count generalizing net world with
  | zero => rfl
  | succ count ih =>
    cases ho : (net.run world).outcome with
    | error e => rw [runTimes_succ_of_error ho, run_observers]
    | ok _ => rw [runTimes_succ_of_ok ho, ih, run_observers]

theorem timeIndividually_told (net : Net Op) (world : World) (s : BenchmarkSetting) (main : BenchmarkReport) :
    (∃ positions : List Nat, told (net.timeIndividually world s main).events = positions.map .operatorRun) ∧
      (net.timeIndividually world s main).net.observers = net.observers := by
  obtain ⟨positions, htold⟩ := timeIterations_told (some s.schemas) (fun k => s.clock (k + 1)) net.operators world
    s.mainRuns.toNat
  unfold timeIndividually
  cases hf : (timeIterations (some s.schemas) (fun k => s.clock (k + 1)) net.operators world
      s.mainRuns.toNat).failure with
  | some e => simp only [hf, and_true]; exact ⟨positions, htold⟩
  | none =>
    have hentries (report : BenchmarkReport) : told (report.entries.map Event.log) = [] := by
      rw [← told_hooks, hooks_entries, told_nil]
    simp only [hf, and_true, told_append, hentries, List.append_nil]
    exact ⟨positions, htold⟩

theorem mainRuns_told (net : Net Op) (world : World) (s : BenchmarkSetting) :
    (∃ positions : List Nat, told (net.mainRuns world s).events =
        told (net.runTimes world s.mainRuns.toNat).1.events ++ positions.map .operatorRun) ∧
      (net.mainRuns world s).net.observers = net.observers := by
  have hobservers := net.runTimes_observers world s.mainRuns.toNat
  unfold mainRuns
  cases ho : (net.runTimes world s.mainRuns.toNat).1.outcome with
  | error e =>
    simp only [ho, told_benchmarkLog_cons]
    exact ⟨⟨[], (List.append_nil _).symm⟩, hobservers⟩
  | ok _ =>
    simp only [ho]
    cases s.individual with
    | false =>
      refine ⟨⟨[], ?_⟩, hobservers⟩
      simp
    | true =>
      obtain ⟨⟨positions, htimed⟩, hkept⟩ := timeIndividually_told (net.runTimes world s.mainRuns.toNat).1.net
        (net.runTimes world s.mainRuns.toNat).1.world s (BenchmarkReport.ofMainRuns s.mainRuns (s.clock 0))
      refine ⟨⟨positions, ?_⟩, hkept.trans hobservers⟩
      simp [htimed]

/-- A benchmark tells what its whole runs tell; behind them operators are only run one by one. -/
theorem benchmarkReport_told (net : Net Op) (world : World) (s : BenchmarkSetting) :
    (∃ positions : List Nat, told (net.benchmarkReport world s).events =
        (net.benchmarkRuns world net.observers.labels s).flatMap WholeRun.events ++ positions.map .operatorRun) ∧
      (net.benchmarkReport world s).net.observers = net.observers := by
  unfold benchmarkReport benchmarkRuns
  by_cases hneg : s.warmupRuns < 0 ∨ s.mainRuns < 0
  · simp only [s.check_refused hneg, if_pos hneg, and_true]
    exact ⟨[], rfl⟩
  · obtain ⟨hw, hm⟩ := not_or.mp hneg
    have hobservers := net.runTimes_observers world s.warmupRuns.toNat
    simp only [s.check_ok (Int.not_lt.mp hw) (Int.not_lt.mp hm), if_neg hneg, ← runTimes_told, runTimes_add]
    cases (net.runTimes world s.warmupRuns.toNat).1.outcome with
    | error e => exact ⟨⟨[], (List.append_nil _).symm⟩, hobservers⟩
    | ok _ =>
      obtain ⟨⟨positions, hmain⟩, hkept⟩ := mainRuns_told (net.runTimes world s.warmupRuns.toNat).1.net
        (net.runTimes world s.warmupRuns.toNat).1.world s
      refine ⟨⟨positions, ?_⟩, hkept.trans hobservers⟩
      simp [hmain]

end Net

end Dataflow
