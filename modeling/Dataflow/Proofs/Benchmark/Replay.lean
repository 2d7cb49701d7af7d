/-
What is told of runs and benchmarks is what has been done to the operators.
When the calls of operators that the events tell of are made once more, in
their order, they lead to the same operators and the same world
(`Net.run_replay`, `Net.benchmarkReport_replay`), so no call goes untold and
none is told that has not been made.
-/
import Dataflow.Proofs.Benchmark.Iterations

namespace Dataflow

variable {Op World : Type} [Operator Op World]

/-- Makes the call that an event tells of once more, on the operator at its position. -/
def Event.redo (s : List (NetOperator Op) × World) : Event → List (NetOperator Op) × World
  | .operatorRun i =>
    match s.1[i]? with
    | some o =>
      let ran := Operator.run o.op s.2
      (s.1.set i { o with op := ran.op }, ran.world)
    | none => s
  | .operatorReset i =>
    match s.1[i]? with
    | some o => (s.1, Operator.reset o.op s.2)
    | none => s
  | .shapesAsked i =>
    match s.1[i]? with
    | some o => (s.1, (Operator.inputShapes o.op s.2).2)
    | none => s
  | _ => s

/-- Makes the calls that events tell of once more, in their order. -/
def replay (events : List Event) (s : List (NetOperator Op) × World) : List (NetOperator Op) × World :=
  events.foldl Event.redo s

@[simp] theorem replay_nil (s : List (NetOperator Op) × World) : replay [] s = s := rfl

@[simp] theorem replay_append (before behind : List Event) (s : List (NetOperator Op) × World) :
    replay (before ++ behind) s = replay behind (replay before s) := List.foldl_append

@[simp] theorem replay_logged_cons (level : Level) (target message : String) (events : List Event)
    (s : List (NetOperator Op) × World) :
    replay (.logged level target message :: events) s = replay events s := rfl

@[simp] theorem replay_benchmarkLog_cons (level : Level) (message : String) (events : List Event)
    (s : List (NetOperator Op) × World) :
    replay (benchmarkLog level message :: events) s = replay events s := rfl

@[simp] theorem replay_operatorStart_cons (point : TracePoint) (events : List Event)
    (s : List (NetOperator Op) × World) : replay (.operatorStart point :: events) s = replay events s := rfl

@[simp] theorem replay_operatorDone_cons (point : TracePoint) (events : List Event)
    (s : List (NetOperator Op) × World) : replay (.operatorDone point :: events) s = replay events s := rfl

theorem replay_of_untold {events : List Event}
    (h : ∀ e ∈ events, ∀ s : List (NetOperator Op) × World, e.redo s = s) (s : List (NetOperator Op) × World) :
    replay events s = s := by
  induction events with
  | nil => rfl
  | cons e rest ih =>
    obtain ⟨he, hrest⟩ := List.forall_mem_cons.mp h
    exact (congrArg (replay rest) (he s)).trans (ih hrest)

theorem replay_started (observers : Observers) (s : List (NetOperator Op) × World) :
    replay observers.started s = s := by
  refine replay_of_untold (fun e he s => ?_) s
  obtain ⟨label, -, rfl⟩ := List.mem_map.mp he
  rfl

theorem replay_stopped (observers : Observers) (s : List (NetOperator Op) × World) :
    replay observers.stopped s = s := by
  refine replay_of_untold (fun e he s => ?_) s
  obtain ⟨label, -, rfl⟩ := List.mem_map.mp he
  rfl

variable {before rest : List (NetOperator Op)} {o : NetOperator Op} {world : World}

theorem redo_operatorRun :
    Event.redo (before ++ o :: rest, world) (.operatorRun before.length) =
      (before ++ { o with op := (Operator.run o.op world).op } :: rest, (Operator.run o.op world).world) := by
  simp [Event.redo]

theorem redo_operatorReset :
    Event.redo (before ++ o :: rest, world) (.operatorReset before.length) =
      (before ++ o :: rest, Operator.reset o.op world) := by
  simp [Event.redo]

theorem redo_shapesAsked :
    Event.redo (before ++ o :: rest, world) (.shapesAsked before.length) =
      (before ++ o :: rest, (Operator.inputShapes o.op world).2) := by
  simp [Event.redo]

/-! ## Runs -/

/-- Of the events of an operator in its range one tells of a call, its run. -/
theorem replay_runInRange (ranges : Bool) (position : Nat) (o : NetOperator Op) (world : World) (p : Profiler)
    (s : List (NetOperator Op) × World) :
    replay (runInRange ranges position o world p).2.2 s = Event.redo s (.operatorRun position) := by
  cases ranges <;> rfl

theorem replay_runOperators (setting : RunSetting) (before rest : List (NetOperator Op)) (world : World)
    (p : Profiler) :
    let all := runOperators setting before.length rest world p
    replay all.events (before ++ rest, world) = (before ++ all.operators, all.world) := by
  induction rest generalizing before world p with
  | nil => rfl
  | cons o rest ih =>
    have hran := runInRange_ran setting.ranges before.length o world p
    have hredo := replay_runInRange setting.ranges before.length o world p (before ++ o :: rest, world)
    rw [redo_operatorRun] at hredo
    cases hf : (Operator.run o.op world).failure with
    | some cause => simp [runOperators, hran, hf, hredo]
    | none =>
      have hlater := ih (before ++ [{ o with op := (Operator.run o.op world).op }]) (Operator.run o.op world).world
        (runInRange setting.ranges before.length o world p).2.1
      simp only [List.length_append, List.length_singleton, List.append_assoc, List.singleton_append] at hlater
      simp [runOperators, hran, hf, hredo, hlater]

namespace Net

/-- **The events of a run tell of exactly the calls that it has made.** -/
theorem run_replay (net : Net Op) (world : World) :
    replay (net.run world).events (net.operators, world) =
      ((net.run world).net.operators, (net.run world).world) := by
  have hall := replay_runOperators net.setting [] net.operators world net.profiler
  simp only [List.length_nil, List.nil_append] at hall
  unfold run
  cases hf : (runOperators net.setting 0 net.operators world net.profiler).failure with
  | some e => simp [hf, replay_started, hall]
  | none => simp [hf, replay_started, replay_stopped, hall]

theorem runTimes_replay (net : Net Op) (world : World) (count : Nat) :
    replay (net.runTimes world count).1.events (net.operators, world) =
      ((net.runTimes world count).1.net.operators, (net.runTimes world count).1.world) := by
  induction count generalizing net world with
  | zero => rfl
  | succ count ih =>
    cases ho : (net.run world).outcome with
    | error e => rw [runTimes_succ_of_error ho, run_replay]
    | ok _ =>
      rw [runTimes_succ_of_ok ho, replay_append, run_replay]
      exact ih (net.run world).net (net.run world).world

end Net

/-! ## Individual runs -/

/-- The events about the cost of an operator tell of one call at most, that for the shapes. -/
theorem replay_estimate (setting : TimingSetting) :
    replay (setting.estimate before.length o world).2.2 (before ++ o :: rest, world) =
      (before ++ o :: rest, (setting.estimate before.length o world).2.1) := by
  obtain ⟨_ | schemas, clock⟩ := setting
  · rfl
  · simp only [TimingSetting.estimate, estimateCost]
    cases schemas.costFunction? o.spec.opType with
    | none => rfl
    | some f =>
      by_cases hlength : (Operator.inputShapes o.op world).1.length = o.spec.inputs.length
      · simp only [hlength, ne_eq, not_true_eq_false, if_false]
        exact redo_shapesAsked
      · simp only [hlength, ne_eq, not_false_eq_true, if_true]
        exact redo_shapesAsked

theorem replay_resetOperators (before rest : List (NetOperator Op)) (world : World) :
    replay (resetOperators before.length rest world).2 (before ++ rest, world) =
      (before ++ rest, (resetOperators before.length rest world).1) := by
  induction rest generalizing before world with
  | nil => rfl
  | cons o rest ih =>
    have hlater := ih (before ++ [o]) (Operator.reset o.op world)
    simp only [List.length_append, List.length_singleton, List.append_assoc, List.singleton_append] at hlater
    refine Eq.trans ?_ hlater
    exact congrArg (replay _) redo_operatorReset

theorem replay_timeOperators (setting : TimingSetting) (before rest : List (NetOperator Op)) (world : World) :
    let all := timeOperators setting before.length rest world
    replay all.events (before ++ rest, world) = (before ++ all.operators, all.world) := by
  induction rest generalizing before world with
  | nil => rfl
  | cons o rest ih =>
    have hestimate := @replay_estimate Op World _ before rest o world setting
    cases hf : (Operator.run o.op (setting.estimate before.length o world).2.1).failure with
    | some cause =>
      rw [timeOperators_cons_failed hf]
      simp only [replay_append, hestimate]
      exact redo_operatorRun
    | none =>
      have hlater := ih (before ++ [{ o with
        op := (Operator.run o.op (setting.estimate before.length o world).2.1).op }])
        (Operator.run o.op (setting.estimate before.length o world).2.1).world
      simp only [List.length_append, List.length_singleton, List.append_assoc, List.singleton_append] at hlater
      rw [timeOperators_cons_ran hf]
      simp only [replay_append, hestimate]
      refine Eq.trans ?_ hlater
      exact congrArg (replay _) redo_operatorRun

theorem replay_firstIteration (schemas : Option SchemaRegistry) (clock : Clock) (ops : List (NetOperator Op))
    (world : World) :
    let first := firstIteration schemas clock ops world
    replay ((resetOperators 0 ops world).2 ++ first.events) (ops, world) = (first.operators, first.world) := by
  have hreset := replay_resetOperators [] ops world
  have htimed := replay_timeOperators ⟨schemas, clock⟩ [] ops (resetOperators 0 ops world).1
  simp only [List.length_nil, List.nil_append] at hreset htimed
  simp only [replay_append, hreset]
  exact htimed

theorem replay_timeIterations (schemas : Option SchemaRegistry) (clock : Clock) (ops : List (NetOperator Op))
    (world : World) (count : Nat) :
    let all := timeIterations schemas clock ops world count
    replay all.events (ops, world) = (all.operators, all.world) := by
  induction count generalizing schemas clock ops world with
  | zero => rfl
  | succ count ih =>
    have hfirst := replay_firstIteration schemas clock ops world
    cases hf : (firstIteration schemas clock ops world).failure with
    | some e =>
      rw [timeIterations_succ_failed hf]
      exact hfirst
    | none =>
      rw [timeIterations_succ_ran hf]
      simp only [replay_append] at hfirst ⊢
      rw [hfirst]
      exact ih ..

/-! ## Benchmarks -/

namespace Net

theorem replay_entries (report : BenchmarkReport) (s : List (NetOperator Op) × World) :
    replay (report.entries.map Event.log) s = s := by
  refine replay_of_untold (fun e he s => ?_) s
  obtain ⟨entry, -, rfl⟩ := List.mem_map.mp he
  rfl

theorem timeIndividually_replay (net : Net Op) (world : World) (s : BenchmarkSetting) (report : BenchmarkReport) :
    let after := net.timeIndividually world s report
    replay after.events (net.operators, world) = (after.net.operators, after.world) := by
  have htimed := replay_timeIterations (some s.schemas) (fun k => s.clock (k + 1)) net.operators world
    s.mainRuns.toNat
  unfold timeIndividually
  cases hf : (timeIterations (some s.schemas) (fun k => s.clock (k + 1)) net.operators world
      s.mainRuns.toNat).failure with
  | some e => simpa only [hf] using htimed
  | none => simpa only [hf, replay_append, replay_entries] using htimed

theorem mainRuns_replay (net : Net Op) (world : World) (s : BenchmarkSetting) :
    let after := net.mainRuns world s
    replay after.events (net.operators, world) = (after.net.operators, after.world) := by
  have hruns := net.runTimes_replay world s.mainRuns.toNat
  unfold mainRuns
  cases ho : (net.runTimes world s.mainRuns.toNat).1.outcome with
  | error e => simpa only [ho, replay_benchmarkLog_cons] using hruns
  | ok _ =>
    simp only [ho]
    cases s.individual with
    | false => simpa using hruns
    | true =>
      simp only [if_true, List.cons_append, replay_benchmarkLog_cons, replay_append, hruns, replay_nil]
      exact timeIndividually_replay ..

/-- **The events of a benchmark tell of exactly the calls that it has made.** -/
theorem benchmarkReport_replay (net : Net Op) (world : World) (s : BenchmarkSetting) :
    replay (net.benchmarkReport world s).events (net.operators, world) =
      ((net.benchmarkReport world s).net.operators, (net.benchmarkReport world s).world) := by
  have hruns := net.runTimes_replay world s.warmupRuns.toNat
  unfold benchmarkReport
  cases s.check with
  | error e => rfl
  | ok _ =>
    cases ho : (net.runTimes world s.warmupRuns.toNat).1.outcome with
    | error e => simpa only [ho, List.cons_append, List.nil_append, replay_benchmarkLog_cons] using hruns
    | ok _ =>
      simp only [ho, List.cons_append, List.nil_append, replay_benchmarkLog_cons, replay_append, hruns]
      exact mainRuns_replay ..

end Net

end Dataflow
