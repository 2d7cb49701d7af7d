/-
The calls that a benchmark which succeeds makes on operators, observers, trace
events and ranges, one by one and in their order (`Net.hooks_of_ok`): those of
all its whole runs, and behind them those of the iterations that time the
operators on their own.
-/
import Dataflow.Proofs.Benchmark.Costs
import Dataflow.Proofs.Benchmark.Replay
import Dataflow.Proofs.Benchmark.Runs
import Dataflow.Proofs.Net.Events

namespace Dataflow

variable {Op World : Type} [Operator Op World]

/-- Whether an event is a call on an operator, an observer, the trace events or the ranges. -/
def Event.isHook : Event → Bool
  | .log _ | .costInferred .. => false
  | _ => true

def hooks (events : List Event) : List Event := events.filter Event.isHook

@[simp] theorem hooks_nil : hooks [] = [] := rfl

@[simp] theorem hooks_append (before behind : List Event) : hooks (before ++ behind) = hooks before ++ hooks behind :=
  List.filter_append ..

@[simp] theorem hooks_benchmarkLog_cons (level : Level) (message : String) (events : List Event) :
    hooks (benchmarkLog level message :: events) = hooks events := rfl

theorem hooks_calls (events : List Event) : hooks (calls events) = hooks events := by
  rw [hooks, calls, List.filter_filter, hooks]
  refine List.filter_congr fun e _ => ?_
  cases e <;> rfl

theorem hooks_eq_self {events : List Event} (h : ∀ e ∈ events, e.isHook = true) : hooks events = events :=
  List.filter_eq_self.mpr h

theorem hooks_started (observers : Observers) : hooks observers.started = observers.started :=
  hooks_eq_self (List.forall_mem_map.mpr fun _ _ => rfl)

theorem hooks_stopped (observers : Observers) : hooks observers.stopped = observers.stopped :=
  hooks_eq_self (List.forall_mem_map.mpr fun _ _ => rfl)

theorem hooks_entries (report : BenchmarkReport) : hooks (report.entries.map Event.log) = [] := by
  refine List.filter_eq_nil_iff.mpr fun e he => ?_
  obtain ⟨entry, -, rfl⟩ := List.mem_map.mp he
  simp [Event.isHook]

/-! ## Whole runs -/

namespace RunSetting

variable (setting : RunSetting)

theorem hooks_turnEvents (p : Profiler) (count position : Nat) (o : NetOperator Op) :
    hooks (setting.turnEvents p count position o) = setting.turnEvents p count position o := by
  unfold turnEvents
  cases setting.ranges <;> rfl

theorem hooks_events (p : Profiler) (position : Nat) (ops : List (NetOperator Op)) :
    hooks (setting.events p position ops) = setting.events p position ops := by
  induction ops generalizing p position with
  | nil => rfl
  | cons o rest ih => rw [setting.events_cons, hooks_append, hooks_turnEvents, ih]

/-- What is told of turns depends on what the operators were made from, not on their states. -/
theorem events_congr (p : Profiler) (position : Nat) {ops ops' : List (NetOperator Op)}
    (h : ops.map NetOperator.origin = ops'.map NetOperator.origin) :
    setting.events p position ops = setting.events p position ops' := by
  induction ops generalizing ops' p position with
  | nil =>
    obtain rfl : ops' = [] := by simpa using h.symm
    rfl
  | cons o rest ih =>
    cases ops' with
    | nil => cases h
    | cons o' rest' =>
      obtain ⟨hhead, htail⟩ := List.cons.inj h
      have hturn : setting.turnEvents p 0 position o = setting.turnEvents p 0 position o' := by
        simp only [turnEvents, NetOperator.point, NetOperator.spec, hhead]
      rw [setting.events_cons, setting.events_cons, hturn, ih _ _ htail]

end RunSetting

namespace Net

/-- The hooks of a whole run behind so many others, when no operator fails: the start that the observers
hear of, the turn of every operator, and the stop. -/
def wholeRunHooks (net : Net Op) (t : Nat) : List Event :=
  net.observers.started ++
    net.setting.events (net.setting.afterTurns net.profiler (t * net.operators.length)) 0 net.operators ++
    net.observers.stopped

/-- What so many whole runs in a row leave of a net when no operator fails, but for the states of its
operators. -/
structure RanOn (net net' : Net Op) (t : Nat) : Prop where
  observers : net'.observers = net.observers
  setting : net'.setting = net.setting
  origins : net'.operators.map NetOperator.origin = net.operators.map NetOperator.origin
  profiler : net'.profiler = net.setting.afterTurns net.profiler (t * net.operators.length)

namespace RanOn

variable {net net' net'' : Net Op} {t u : Nat}

theorem refl (net : Net Op) : net.RanOn net 0 where
  observers := rfl
  setting := rfl
  origins := rfl
  profiler := by
    rw [Nat.zero_mul]
    unfold RunSetting.afterTurns
    split
    · exact net.profiler.afterRanges_zero.symm
    · rfl

theorem length (h : net.RanOn net' t) : net'.operators.length = net.operators.length := by
  simpa using congrArg List.length h.origins

theorem trans (h : net.RanOn net' t) (h' : net'.RanOn net'' u) : net.RanOn net'' (t + u) where
  observers := h'.observers.trans h.observers
  setting := h'.setting.trans h.setting
  origins := h'.origins.trans h.origins
  profiler := by
    rw [h'.profiler, h.setting, h.profiler, h.length, RunSetting.afterTurns_add, Nat.add_mul]

theorem wholeRunHooks (h : net.RanOn net' t) (u : Nat) : net'.wholeRunHooks u = net.wholeRunHooks (t + u) := by
  rw [Net.wholeRunHooks, Net.wholeRunHooks, h.observers, h.setting, h.profiler, h.length,
    RunSetting.afterTurns_add, Nat.add_mul, RunSetting.events_congr _ _ _ h.origins]

end RanOn

variable {net : Net Op} {world : World}

theorem run_ranOn (h : (net.run world).outcome = .ok ()) : net.RanOn (net.run world).net 1 where
  observers := run_observers net world
  setting := run_setting net world
  origins := by rw [run_operators, pass_origins]
  profiler := by rw [run_profiler, (runOperators_of_ran (allRan_of_ok h)).2, Nat.one_mul]

theorem run_hooks (h : (net.run world).outcome = .ok ()) : hooks (net.run world).events = net.wholeRunHooks 0 := by
  obtain ⟨-, hcalls, -, -⟩ := (net.run_in_turns world).ran (allRan_of_ok h)
  rw [← hooks_calls, hcalls, wholeRunHooks, (RanOn.refl net).profiler.symm, turns, List.take_length]
  simp only [hooks_append, hooks_started, hooks_stopped, RunSetting.hooks_events]

/-- The hooks of runs in a row, none of which fails. -/
theorem runTimes_hooks {count : Nat} (h : (net.runTimes world count).1.outcome = .ok ()) :
    hooks (net.runTimes world count).1.events = (List.range count).flatMap net.wholeRunHooks ∧
      net.RanOn (net.runTimes world count).1.net count := by
  induction count generalizing net world with
  | zero => exact ⟨rfl, .refl net⟩
  | succ count ih =>
    cases ho : (net.run world).outcome with
    | error e => rw [runTimes_succ_of_error ho, ho] at h; cases h
    | ok _ =>
      have hfirst := run_ranOn ho
      rw [runTimes_succ_of_ok ho] at h ⊢
      obtain ⟨hlater, hleft⟩ := ih h
      refine ⟨?_, Nat.add_comm count 1 ▸ hfirst.trans hleft⟩
      rw [hooks_append, run_hooks ho, hlater, List.range_succ_eq_map, List.flatMap_cons, List.flatMap_map]
      congr 2
      funext t
      rw [hfirst.wholeRunHooks t, Nat.add_comm 1 t]

end Net

/-! ## Individual runs -/

/-- Whether an operator is asked for the shapes of its inputs: its type has a schema with a cost function. -/
def NetOperator.isCosted (o : NetOperator Op) (schemas : Option SchemaRegistry) : Bool :=
  (schemas.bind fun schemas => schemas.costFunction? o.spec.opType).isSome

/-- The hooks of timing operators, the first of them at a position, when none fails: every operator that is
costed is asked right before its run. -/
def timedHooks (schemas : Option SchemaRegistry) (first : Nat) (ops : List (NetOperator Op)) : List Event :=
  (ops.mapIdx fun i o =>
    (if o.isCosted schemas then [.shapesAsked (first + i)] else []) ++ [.operatorRun (first + i)]).flatten

theorem timedHooks_cons (schemas : Option SchemaRegistry) (first : Nat) (o : NetOperator Op)
    (rest : List (NetOperator Op)) :
    timedHooks schemas first (o :: rest) =
      (if o.isCosted schemas then [.shapesAsked first] else []) ++ .operatorRun first ::
        timedHooks schemas (first + 1) rest := by
  simp only [timedHooks, List.mapIdx_cons, List.flatten_cons, Nat.add_zero, List.append_assoc, List.singleton_append]
  congr 4
  funext i o
  rw [Nat.add_right_comm, Nat.add_assoc]

theorem timedHooks_congr (schemas : Option SchemaRegistry) (first : Nat) {ops ops' : List (NetOperator Op)}
    (h : ops.map NetOperator.origin = ops'.map NetOperator.origin) :
    timedHooks schemas first ops = timedHooks schemas first ops' := by
  induction ops generalizing ops' first with
  | nil =>
    obtain rfl : ops' = [] := by simpa using h.symm
    rfl
  | cons o rest ih =>
    cases ops' with
    | nil => cases h
    | cons o' rest' =>
      obtain ⟨hhead, htail⟩ := List.cons.inj h
      have hcosted : o.isCosted schemas = o'.isCosted schemas := by
        simp only [NetOperator.isCosted, NetOperator.spec, hhead]
      rw [timedHooks_cons, timedHooks_cons, hcosted, ih _ htail]

def iterationHooks (schemas : Option SchemaRegistry) (ops : List (NetOperator Op)) : List Event :=
  (List.range ops.length).map .operatorReset ++ timedHooks schemas 0 ops

theorem estimate_hooks (setting : TimingSetting) (position : Nat) (o : NetOperator Op) (world : World) :
    hooks (setting.estimate position o world).2.2 =
      if o.isCosted setting.schemas then [.shapesAsked position] else [] := by
  obtain ⟨_ | schemas, clock⟩ := setting
  · rfl
  · change hooks (estimateCost schemas position o world).2.2 =
      if (schemas.costFunction? o.spec.opType).isSome then [.shapesAsked position] else []
    unfold estimateCost
    cases schemas.costFunction? o.spec.opType with
    | none => rfl
    | some f =>
      by_cases hlength : (Operator.inputShapes o.op world).1.length = o.spec.inputs.length
      · simp only [hlength, ne_eq, not_true_eq_false, if_false]
        rfl
      · simp only [hlength, ne_eq, not_false_eq_true, if_true]
        rfl

theorem timeOperators_hooks {setting : TimingSetting} {first : Nat} {ops : List (NetOperator Op)} {world : World}
    (hok : (timeOperators setting first ops world).failure = none) :
    hooks (timeOperators setting first ops world).events = timedHooks setting.schemas first ops := by
  induction ops generalizing first world with
  | nil => rfl
  | cons o rest ih =>
    obtain ⟨ho, hrest⟩ := timeOperators_ok_cons hok
    rw [timeOperators_cons_ran ho]
    simp only [hooks_append, estimate_hooks, ih hrest, timedHooks_cons, List.append_assoc]
    rfl

theorem resetOperators_events (position : Nat) (ops : List (NetOperator Op)) (world : World) :
    (resetOperators position ops world).2 = (List.range' position ops.length).map .operatorReset := by
  induction ops generalizing position world with
  | nil => rfl
  | cons o rest ih => exact congrArg (.operatorReset position :: ·) (ih (position + 1) (Operator.reset o.op world))

theorem resetOperators_hooks (ops : List (NetOperator Op)) (world : World) :
    hooks (resetOperators 0 ops world).2 = (List.range ops.length).map .operatorReset := by
  rw [resetOperators_events, List.range_eq_range']
  exact hooks_eq_self (List.forall_mem_map.mpr fun _ _ => rfl)

/-- The hooks of iterations in a row, none of which fails: only the first one asks for shapes. -/
theorem timeIterations_hooks {schemas : Option SchemaRegistry} {clock : Clock} {ops : List (NetOperator Op)}
    {world : World} {count : Nat} (hok : (timeIterations schemas clock ops world count).failure = none) :
    hooks (timeIterations schemas clock ops world count).events =
      (List.range count).flatMap fun k => iterationHooks (if k = 0 then schemas else none) ops := by
  induction count generalizing schemas clock ops world with
  | zero => rfl
  | succ count ih =>
    obtain ⟨hf, hlater⟩ := timeIterations_ok_succ hok
    have hfirst : hooks (firstIteration schemas clock ops world).events = timedHooks schemas 0 ops :=
      timeOperators_hooks hf
    have horigins : (firstIteration schemas clock ops world).operators.map NetOperator.origin =
        ops.map NetOperator.origin := timeOperators_origins ..
    have hlength : (firstIteration schemas clock ops world).operators.length = ops.length := by
      simpa using congrArg List.length horigins
    rw [timeIterations_succ_ran hf, List.range_succ_eq_map, List.flatMap_cons, List.flatMap_map]
    simp only [hooks_append, resetOperators_hooks, hfirst, ih hlater, if_true, Nat.succ_ne_zero, if_false, ite_self]
    rw [iterationHooks, iterationHooks, iterationHooks, hlength, timedHooks_congr none 0 horigins]

/-! ## Benchmarks -/

namespace Net

variable {net net' : Net Op} {world : World} {s : BenchmarkSetting} {report : BenchmarkReport} {t : Nat}

/-- The hooks of the iterations of a benchmark that time the operators of a net on their own. -/
def individualHooks (net : Net Op) (s : BenchmarkSetting) : List Event :=
  (List.range s.iterations).flatMap fun k => iterationHooks (if k = 0 then some s.schemas else none) net.operators

theorem RanOn.individualHooks (h : net.RanOn net' t) (s : BenchmarkSetting) :
    net'.individualHooks s = net.individualHooks s := by
  simp only [Net.individualHooks, iterationHooks, h.length, timedHooks_congr _ 0 h.origins]

theorem timeIndividually_hooks {main : BenchmarkReport} (hi : s.individual = true)
    (h : (net.timeIndividually world s main).outcome = .ok report) :
    hooks (net.timeIndividually world s main).events = net.individualHooks s := by
  obtain ⟨hok, -⟩ := timeIndividually_ok h
  rw [timed] at hok
  simp only [timeIndividually, hok, hooks_append, hooks_entries, List.append_nil, timeIterations_hooks hok,
    individualHooks, BenchmarkSetting.iterations, hi, if_true]

theorem mainRuns_hooks (h : (net.mainRuns world s).outcome = .ok report) :
    hooks (net.mainRuns world s).events =
      (List.range s.mainRuns.toNat).flatMap net.wholeRunHooks ++ net.individualHooks s := by
  unfold mainRuns at h ⊢
  cases ho : (net.runTimes world s.mainRuns.toNat).1.outcome with
  | error e => simp only [ho] at h; cases h
  | ok _ =>
    simp only [ho] at h ⊢
    obtain ⟨hmain, hleft⟩ := runTimes_hooks ho
    cases hi : s.individual with
    | false =>
      simp [hmain, individualHooks, BenchmarkSetting.iterations, hi]
    | true =>
      simp only [hi, if_true] at h ⊢
      have htimed := timeIndividually_hooks hi h
      rw [hleft.individualHooks] at htimed
      simp [hmain, htimed]

/-- The hooks of a benchmark that succeeds are those of its whole runs, and behind them those of its
iterations. -/
theorem hooks_of_ok (h : (net.benchmarkReport world s).outcome = .ok report) :
    hooks (net.benchmarkReport world s).events =
      (List.range s.wholeRuns).flatMap net.wholeRunHooks ++ net.individualHooks s := by
  unfold benchmarkReport at h ⊢
  cases hc : s.check with
  | error e => simp only [hc] at h; cases h
  | ok _ =>
    simp only [hc] at h ⊢
    cases ho : (net.runTimes world s.warmupRuns.toNat).1.outcome with
    | error e => simp only [ho] at h; cases h
    | ok _ =>
      simp only [ho] at h ⊢
      obtain ⟨hwarm, hleft⟩ := runTimes_hooks ho
      have hmain := mainRuns_hooks h
      have hbehind : (runTimes net world s.warmupRuns.toNat).1.net.wholeRunHooks =
          fun t => net.wholeRunHooks (s.warmupRuns.toNat + t) := funext hleft.wholeRunHooks
      rw [hleft.individualHooks, hbehind] at hmain
      rw [BenchmarkSetting.wholeRuns, List.range_add, List.flatMap_append, List.flatMap_map]
      simp [hwarm, hmain]

end Net

end Dataflow
