/-
How often a benchmark that succeeds makes each call (`benchmarkReport_hooks`).
The calls are known one by one, so it is a matter of counting them: in a whole
run every operator has its turn once, in an iteration it is cleared once, and
in the first iteration those that are costed are asked for their shapes.
-/
import Dataflow.Proofs.Benchmark.Hooks

namespace Dataflow

variable {Op World : Type} [Operator Op World]

namespace Event

def startsAt (i : Nat) : Event → Bool
  | .operatorStart point => point.opId == i
  | _ => false

def doneAt (i : Nat) : Event → Bool
  | .operatorDone point => point.opId == i
  | _ => false

def opensRange : Event → Bool
  | .rangeStart _ => true
  | _ => false

def endsRange : Event → Bool
  | .rangeEnd .. => true
  | _ => false

def resetsAt (i : Nat) : Event → Bool
  | .operatorReset j => j == i
  | _ => false

def asksAt (i : Nat) : Event → Bool
  | .shapesAsked j => j == i
  | _ => false

end Event

/-- Hooks can be counted among all events. -/
theorem countP_hooks {q : Event → Bool} (hlog : ∀ entry, q (.log entry) = false)
    (hcost : ∀ spec shapes, q (.costInferred spec shapes) = false) (events : List Event) :
    (hooks events).countP q = events.countP q := by
  rw [hooks, List.countP_filter]
  refine List.countP_congr fun e _ => ?_
  cases e <;> simp [Event.isHook, hlog, hcost]

theorem countP_flatMap_range {q : Event → Bool} {f : Nat → List Event} {c : Nat} (hf : ∀ t, (f t).countP q = c)
    (count : Nat) : ((List.range count).flatMap f).countP q = count * c := by
  have hconst : List.countP q ∘ f = fun _ => c := funext hf
  rw [List.countP_flatMap, hconst, List.map_const', List.sum_replicate_nat, List.length_range]

section Positions

variable {α : Type} {q : Event → Bool} {f : Nat → α → List Event}

/-- When every member of a list shows a kind of event equally often. -/
theorem countP_flatten_mapIdx {c : Nat} {items : List α} (hf : ∀ i item, (f i item).countP q = c) :
    (items.mapIdx f).flatten.countP q = items.length * c := by
  induction items generalizing f with
  | nil => rw [List.mapIdx_nil, List.flatten_nil, List.countP_nil, List.length_nil, Nat.zero_mul]
  | cons item rest ih =>
    rw [List.mapIdx_cons, List.flatten_cons, List.countP_append, hf, ih fun i => hf (i + 1), List.length_cons,
      Nat.succ_mul, Nat.add_comm]

/-- When a kind of event belongs to one position. -/
theorem countP_flatten_mapIdx_at {c : α → Nat} {i : Nat} {items : List α}
    (hhere : ∀ item, (f i item).countP q = c item) (hother : ∀ j item, j ≠ i → (f j item).countP q = 0) :
    (items.mapIdx f).flatten.countP q = items[i]?.elim 0 c := by
  induction items generalizing f i with
  | nil => rfl
  | cons item rest ih =>
    rw [List.mapIdx_cons, List.flatten_cons, List.countP_append]
    cases i with
    | zero =>
      rw [hhere, countP_flatten_mapIdx fun j item => hother (j + 1) item (Nat.succ_ne_zero j)]
      rfl
    | succ i =>
      rw [hother 0 item (Nat.succ_ne_zero i).symm, Nat.zero_add]
      exact ih hhere fun j item hj => hother (j + 1) item (Nat.succ_ne_succ_iff.mpr hj)

theorem elim_const_eq {c i : Nat} (items : List α) :
    items[i]?.elim 0 (fun _ => c) = if i < items.length then c else 0 := by
  by_cases hi : i < items.length
  · rw [List.getElem?_eq_getElem hi, if_pos hi]
    rfl
  · rw [List.getElem?_eq_none (Nat.le_of_not_lt hi), if_neg hi]
    rfl

end Positions

/-! ## In a whole run -/

namespace Net

variable {net : Net Op} {q : Event → Bool}

theorem wholeRunHooks_countP_turns (hstart : ∀ label, q (.observerStart label) = false)
    (hstop : ∀ label, q (.observerStop label) = false) (t : Nat) :
    (net.wholeRunHooks t).countP q =
      (net.setting.events (net.setting.afterTurns net.profiler (t * net.operators.length)) 0
        net.operators).countP q := by
  have hstarted : net.observers.started.countP q = 0 := by
    simp [Observers.started, List.countP_eq_zero, hstart]
  have hstopped : net.observers.stopped.countP q = 0 := by
    simp [Observers.stopped, List.countP_eq_zero, hstop]
  rw [wholeRunHooks, List.countP_append, List.countP_append, hstarted, hstopped, Nat.zero_add, Nat.add_zero]

/-- What is shown once in the turn at a position, and in no other turn. -/
theorem wholeRunHooks_countP_at {i : Nat} (hstart : ∀ label, q (.observerStart label) = false)
    (hstop : ∀ label, q (.observerStop label) = false)
    (hturn : ∀ p count position (o : NetOperator Op),
      (net.setting.turnEvents p count position o).countP q = if position = i then 1 else 0) (t : Nat) :
    (net.wholeRunHooks t).countP q = if i < net.operators.length then 1 else 0 := by
  rw [wholeRunHooks_countP_turns hstart hstop, RunSetting.events, ← elim_const_eq net.operators]
  refine countP_flatten_mapIdx_at (fun o => ?_) fun j o hj => ?_
  · rw [hturn, Nat.zero_add, if_pos rfl]
  · rw [hturn, Nat.zero_add, if_neg hj]

theorem wholeRunHooks_starts (net : Net Op) (i t : Nat) :
    (net.wholeRunHooks t).countP (Event.startsAt i) = if i < net.operators.length then 1 else 0 := by
  refine wholeRunHooks_countP_at (fun _ => rfl) (fun _ => rfl) (fun p count position o => ?_) t
  unfold RunSetting.turnEvents
  cases net.setting.ranges <;> simp [List.countP_cons, Event.startsAt, NetOperator.point]

theorem wholeRunHooks_done (net : Net Op) (i t : Nat) :
    (net.wholeRunHooks t).countP (Event.doneAt i) = if i < net.operators.length then 1 else 0 := by
  refine wholeRunHooks_countP_at (fun _ => rfl) (fun _ => rfl) (fun p count position o => ?_) t
  unfold RunSetting.turnEvents
  cases net.setting.ranges <;> simp [List.countP_cons, Event.doneAt, NetOperator.point]

/-- What a turn shows the same number of times whatever its position is. -/
theorem wholeRunHooks_countP {c : Nat} (hstart : ∀ label, q (.observerStart label) = false)
    (hstop : ∀ label, q (.observerStop label) = false)
    (hturn : ∀ p count position (o : NetOperator Op), (net.setting.turnEvents p count position o).countP q = c)
    (t : Nat) : (net.wholeRunHooks t).countP q = net.operators.length * c := by
  rw [wholeRunHooks_countP_turns hstart hstop, RunSetting.events]
  exact countP_flatten_mapIdx fun i o => hturn ..

theorem wholeRunHooks_opens (net : Net Op) (t : Nat) :
    (net.wholeRunHooks t).countP Event.opensRange =
      net.operators.length * if net.config.profilerRanges then 1 else 0 := by
  refine wholeRunHooks_countP (fun _ => rfl) (fun _ => rfl) (fun p count position o => ?_) t
  unfold RunSetting.turnEvents setting
  cases net.config.profilerRanges <;> rfl

theorem wholeRunHooks_ends (net : Net Op) (t : Nat) :
    (net.wholeRunHooks t).countP Event.endsRange =
      net.operators.length * if net.config.profilerRanges then 1 else 0 := by
  refine wholeRunHooks_countP (fun _ => rfl) (fun _ => rfl) (fun p count position o => ?_) t
  unfold RunSetting.turnEvents setting
  cases net.config.profilerRanges <;> rfl

/-- No operator is cleared in a whole run. -/
theorem wholeRunHooks_resets (net : Net Op) (i t : Nat) : (net.wholeRunHooks t).countP (Event.resetsAt i) = 0 := by
  refine (wholeRunHooks_countP (c := 0) (fun _ => rfl) (fun _ => rfl) (fun p count position o => ?_) t).trans
    (Nat.mul_zero _)
  unfold RunSetting.turnEvents
  cases net.setting.ranges <;> rfl

theorem wholeRunHooks_asks (net : Net Op) (i t : Nat) : (net.wholeRunHooks t).countP (Event.asksAt i) = 0 := by
  refine (wholeRunHooks_countP (c := 0) (fun _ => rfl) (fun _ => rfl) (fun p count position o => ?_) t).trans
    (Nat.mul_zero _)
  unfold RunSetting.turnEvents
  cases net.setting.ranges <;> rfl

end Net

/-! ## In an iteration -/

theorem timedHooks_countP_zero {q : Event → Bool} (hrun : ∀ i, q (.operatorRun i) = false)
    (hasked : ∀ i, q (.shapesAsked i) = false) (schemas : Option SchemaRegistry) (first : Nat)
    (ops : List (NetOperator Op)) : (timedHooks schemas first ops).countP q = 0 := by
  rw [timedHooks, countP_flatten_mapIdx (c := 0), Nat.mul_zero]
  intro i o
  cases o.isCosted schemas <;> simp [hrun, hasked]

theorem timedHooks_asks (schemas : Option SchemaRegistry) (ops : List (NetOperator Op)) (i : Nat) :
    (timedHooks schemas 0 ops).countP (Event.asksAt i) =
      ops[i]?.elim 0 fun o => if o.isCosted schemas then 1 else 0 := by
  refine countP_flatten_mapIdx_at (fun o => ?_) fun j o hj => ?_
  · cases o.isCosted schemas <;> simp [Event.asksAt]
  · cases o.isCosted schemas <;> simp [Event.asksAt, hj]

theorem resets_countP (n i : Nat) :
    ((List.range n).map Event.operatorReset).countP (Event.resetsAt i) = if i < n then 1 else 0 := by
  rw [List.countP_map]
  change (List.range n).count i = _
  simp only [List.nodup_range.count, List.mem_range]

/-- Every operator is cleared once. -/
theorem iterationHooks_resets (schemas : Option SchemaRegistry) (ops : List (NetOperator Op)) (i : Nat) :
    (iterationHooks schemas ops).countP (Event.resetsAt i) = if i < ops.length then 1 else 0 := by
  rw [iterationHooks, List.countP_append, resets_countP, timedHooks_countP_zero (fun _ => rfl) fun _ => rfl]
  rfl

/-- Nothing but the clearing and the turns: what neither shows is not shown. -/
theorem iterationHooks_countP_zero {q : Event → Bool} (hreset : ∀ i, q (.operatorReset i) = false)
    (hrun : ∀ i, q (.operatorRun i) = false) (hasked : ∀ i, q (.shapesAsked i) = false)
    (schemas : Option SchemaRegistry) (ops : List (NetOperator Op)) : (iterationHooks schemas ops).countP q = 0 := by
  rw [iterationHooks, List.countP_append, timedHooks_countP_zero hrun hasked, Nat.add_zero]
  simp [List.countP_eq_zero, hreset]

/-- The operators that are costed are asked once. -/
theorem iterationHooks_asks (schemas : Option SchemaRegistry) (ops : List (NetOperator Op)) (i : Nat) :
    (iterationHooks schemas ops).countP (Event.asksAt i) =
      ops[i]?.elim 0 fun o => if o.isCosted schemas then 1 else 0 := by
  rw [iterationHooks, List.countP_append, timedHooks_asks]
  simp [List.countP_eq_zero, Event.asksAt]

/-! ## In a benchmark -/

namespace Net

variable {net : Net Op} {world : World} {s : BenchmarkSetting} {report : BenchmarkReport}

/-- What is told equally often of every whole run, and so many times of the iterations. -/
theorem countP_of_ok {q : Event → Bool} {c d : Nat} (h : (net.benchmarkReport world s).outcome = .ok report)
    (hlog : ∀ entry, q (.log entry) = false) (hcost : ∀ spec shapes, q (.costInferred spec shapes) = false)
    (hwhole : ∀ t, (net.wholeRunHooks t).countP q = c) (hindividual : (net.individualHooks s).countP q = d) :
    (net.benchmarkReport world s).events.countP q = s.wholeRuns * c + d := by
  rw [← countP_hooks hlog hcost, hooks_of_ok h, List.countP_append, countP_flatMap_range hwhole, hindividual]

theorem countP_of_ok_whole {q : Event → Bool} {c : Nat} (h : (net.benchmarkReport world s).outcome = .ok report)
    (hlog : ∀ entry, q (.log entry) = false) (hcost : ∀ spec shapes, q (.costInferred spec shapes) = false)
    (hreset : ∀ i, q (.operatorReset i) = false) (hrun : ∀ i, q (.operatorRun i) = false)
    (hasked : ∀ i, q (.shapesAsked i) = false) (hwhole : ∀ t, (net.wholeRunHooks t).countP q = c) :
    (net.benchmarkReport world s).events.countP q = s.wholeRuns * c := by
  have hnone : (net.individualHooks s).countP q = s.iterations * 0 :=
    countP_flatMap_range (fun k => iterationHooks_countP_zero hreset hrun hasked _ _) _
  rw [countP_of_ok h hlog hcost hwhole hnone, Nat.mul_zero, Nat.add_zero]

/-- In every iteration each operator is cleared. -/
theorem individualHooks_resets (net : Net Op) (s : BenchmarkSetting) (i : Nat) :
    (net.individualHooks s).countP (Event.resetsAt i) =
      s.iterations * if i < net.operators.length then 1 else 0 :=
  countP_flatMap_range (fun _ => iterationHooks_resets _ _ i) _

/-- Only the first iteration asks for shapes. -/
theorem individualHooks_asks (net : Net Op) (s : BenchmarkSetting) (i : Nat) :
    (net.individualHooks s).countP (Event.asksAt i) =
      if s.iterations = 0 then 0 else (iterationHooks (some s.schemas) net.operators).countP (Event.asksAt i) := by
  rw [individualHooks]
  cases s.iterations with
  | zero => rfl
  | succ count =>
    have hlater : ∀ t, (iterationHooks (if t + 1 = 0 then some s.schemas else none) net.operators).countP
        (Event.asksAt i) = 0 := fun t => by
      rw [iterationHooks_asks]
      cases net.operators[i]? <;> rfl
    rw [List.range_succ_eq_map, List.flatMap_cons, List.flatMap_map, List.countP_append, countP_flatMap_range hlater]
    rfl

/-- What it means that a benchmark makes the calls of its whole runs, those of its iterations, and no
others. -/
structure HookedExactly (net : Net Op) (world : World) (s : BenchmarkSetting) : Prop where
  counted : (s.warmupRuns.toNat : Int) = s.warmupRuns ∧ (s.mainRuns.toNat : Int) = s.mainRuns
  /-- The calls one by one. In every iteration all operators are cleared before one runs, and in the
  first one each that is costed is asked for its shapes right before it runs. -/
  hooks : Dataflow.hooks (net.benchmarkReport world s).events =
    (List.range (s.warmupRuns.toNat + s.mainRuns.toNat)).flatMap net.wholeRunHooks ++
      if s.individual then
        (List.range s.mainRuns.toNat).flatMap fun k =>
          iterationHooks (if k = 0 then some s.schemas else none) net.operators
      else []
  /-- No call on an operator goes untold: those told of have done all that the benchmark has done. -/
  called : replay (net.benchmarkReport world s).events (net.operators, world) =
    ((net.benchmarkReport world s).net.operators, (net.benchmarkReport world s).world)
  traced : ∀ i,
    (net.benchmarkReport world s).events.countP (Event.startsAt i) =
      (if i < net.operators.length then s.warmupRuns.toNat + s.mainRuns.toNat else 0) ∧
    (net.benchmarkReport world s).events.countP (Event.doneAt i) =
      (if i < net.operators.length then s.warmupRuns.toNat + s.mainRuns.toNat else 0)
  ranged :
    (net.benchmarkReport world s).events.countP Event.opensRange =
      (if net.config.profilerRanges then (s.warmupRuns.toNat + s.mainRuns.toNat) * net.operators.length else 0) ∧
    (net.benchmarkReport world s).events.countP Event.endsRange =
      (if net.config.profilerRanges then (s.warmupRuns.toNat + s.mainRuns.toNat) * net.operators.length else 0)
  cleared : ∀ i, (net.benchmarkReport world s).events.countP (Event.resetsAt i) =
    if s.individual ∧ i < net.operators.length then s.mainRuns.toNat else 0
  asked : ∀ i, (net.benchmarkReport world s).events.countP (Event.asksAt i) =
    net.operators[i]?.elim 0 fun o =>
      if s.individual ∧ 1 ≤ s.mainRuns ∧ o.isCosted (some s.schemas) then 1 else 0

end Net

theorem BenchmarkSetting.counts_of_check {s : BenchmarkSetting} (h : s.check = .ok ()) :
    0 ≤ s.warmupRuns ∧ 0 ≤ s.mainRuns := by
  by_cases hneg : s.warmupRuns < 0 ∨ s.mainRuns < 0
  · rw [s.check_refused hneg] at h
    cases h
  · exact ⟨Int.not_lt.mp (not_or.mp hneg).1, Int.not_lt.mp (not_or.mp hneg).2⟩

theorem Net.check_of_ok {net : Net Op} {world : World} {s : BenchmarkSetting} {report : BenchmarkReport}
    (h : (net.benchmarkReport world s).outcome = .ok report) : s.check = .ok () := by
  unfold benchmarkReport at h
  cases hc : s.check with
  | ok _ => rfl
  | error e => simp only [hc] at h; cases h

/-- **A benchmark that succeeds makes the calls of its whole runs, those of its iterations, and no
others.** -/
theorem benchmarkReport_hooks (net : Net Op) (world : World) (s : BenchmarkSetting) (report : BenchmarkReport)
    (hok : (net.benchmarkReport world s).outcome = .ok report) : net.HookedExactly world s where
  counted := by
    obtain ⟨hw, hm⟩ := s.counts_of_check (Net.check_of_ok hok)
    exact ⟨Int.toNat_of_nonneg hw, Int.toNat_of_nonneg hm⟩
  hooks := by
    rw [Net.hooks_of_ok hok, Net.individualHooks, BenchmarkSetting.iterations, BenchmarkSetting.wholeRuns]
    cases s.individual <;> rfl
  called := net.benchmarkReport_replay world s
  traced i := by
    have hstarts := Net.countP_of_ok_whole hok (fun _ => rfl) (fun _ _ => rfl) (fun _ => rfl) (fun _ => rfl)
      (fun _ => rfl) (net.wholeRunHooks_starts i)
    have hdone := Net.countP_of_ok_whole hok (fun _ => rfl) (fun _ _ => rfl) (fun _ => rfl) (fun _ => rfl)
      (fun _ => rfl) (net.wholeRunHooks_done i)
    rw [hstarts, hdone, BenchmarkSetting.wholeRuns]
    by_cases hi : i < net.operators.length <;> simp [hi]
  ranged := by
    have hopens := Net.countP_of_ok_whole hok (fun _ => rfl) (fun _ _ => rfl) (fun _ => rfl) (fun _ => rfl)
      (fun _ => rfl) net.wholeRunHooks_opens
    have hends := Net.countP_of_ok_whole hok (fun _ => rfl) (fun _ _ => rfl) (fun _ => rfl) (fun _ => rfl)
      (fun _ => rfl) net.wholeRunHooks_ends
    rw [hopens, hends, BenchmarkSetting.wholeRuns]
    cases net.config.profilerRanges <;> simp
  cleared i := by
    rw [Net.countP_of_ok hok (fun _ => rfl) (fun _ _ => rfl) (net.wholeRunHooks_resets i)
      (net.individualHooks_resets s i), BenchmarkSetting.iterations]
    by_cases hi : i < net.operators.length <;> simp [hi]
  asked i := by
    rw [Net.countP_of_ok hok (fun _ => rfl) (fun _ _ => rfl) (net.wholeRunHooks_asks i)
      (net.individualHooks_asks s i), iterationHooks_asks, BenchmarkSetting.iterations]
    cases net.operators[i]? with
    | none => simp
    | some o =>
      cases s.individual with
      | false => simp
      | true =>
        have hnone : s.mainRuns.toNat = 0 ↔ ¬1 ≤ s.mainRuns := by omega
        by_cases hm : 1 ≤ s.mainRuns <;> simp [hnone, hm]

namespace Hooked

/-- Two operators, of which only the first has a type that is costed; ranges are on. -/
def net : Net Scripted.Actor where
  name := "hooked"
  operators := [⟨.copy { opType := "FC", name := "layer" }, { name := "layer" }⟩,
    ⟨.copy { opType := "Relu", name := "rest" }, { name := "rest" }⟩]
  observers := ⟨["watch"]⟩
  config := ⟨true⟩
  profiler := .newSpans

def setting : BenchmarkSetting := ⟨Scripted.schemas ["FC"], 1, 2, true, fun _ => 0⟩

theorem succeeds : (net.benchmarkReport {} setting).outcome.isOk = true := rfl

end Hooked

open Hooked in
theorem benchmarkReport_hooks_ranges :
    (∃ report, (net.benchmarkReport {} setting).outcome = .ok report) ∧ net.HookedExactly {} setting := by
  have hok := succeeds
  cases hreport : (net.benchmarkReport {} setting).outcome with
  | error e => rw [hreport] at hok; cases hok
  | ok report => exact ⟨⟨report, rfl⟩, benchmarkReport_hooks net _ setting report hreport⟩

-- In the two iterations both operators are cleared before they run, and the first one is asked once.
open Hooked in
example :
    net.individualHooks setting =
      [.operatorReset 0, .operatorReset 1, .shapesAsked 0, .operatorRun 0, .operatorRun 1,
        .operatorReset 0, .operatorReset 1, .operatorRun 0, .operatorRun 1] := rfl

end Dataflow
