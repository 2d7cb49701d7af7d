/-
What observers hear over any history of calls on a net, in which observers are
attached and taken off while the net is run and benchmarked. The whole runs of
a history follow from its calls (`wholeRunsOf`), and so do the observers that
are attached to each of them; observers hear of these runs and of nothing else
(`notices_of_whole_runs`), however operators fail.
-/
import Dataflow.Proofs.Benchmark.Notices

namespace Dataflow

variable {Op World : Type} [Operator Op World]

/-! ## Histories -/

inductive NetCall
  | attach (label : String)
  | detach
  | run
  | runAsync
  | benchmark (setting : BenchmarkSetting)
  | benchmarkReport (setting : BenchmarkSetting)

structure Performed (Op World : Type) where
  net : Net Op
  world : World
  events : List Event := []
  returned : List (List String) := []

namespace NetCall

def perform (net : Net Op) (world : World) : NetCall → Performed Op World
  | .attach label => { net := net.attach label, world }
  | .detach => { net := net.detachAll.2, world, returned := [net.detachAll.1.labels] }
  | .run =>
    let after := net.run world
    { net := after.net, world := after.world, events := after.events }
  | .runAsync =>
    let after := net.runAsync world
    { net := after.net, world := after.world, events := after.events }
  | .benchmark setting =>
    let after := net.benchmark world setting
    { net := after.net, world := after.world, events := after.events }
  | .benchmarkReport setting =>
    let after := net.benchmarkReport world setting
    { net := after.net, world := after.world, events := after.events }

/-- Who is attached behind a call, when some are before it. -/
def attached (labels : List String) : NetCall → List String
  | .attach label => labels ++ [label]
  | .detach => []
  | _ => labels

/-- Whom a call gives back, when some are attached before it. -/
def returned (labels : List String) : NetCall → List (List String)
  | .detach => [labels]
  | _ => []

/-- The whole runs that a call starts, when some are attached. -/
def wholeRuns (labels : List String) (net : Net Op) (world : World) : NetCall → List WholeRun
  | .attach _ | .detach => []
  | .run | .runAsync => [net.wholeRun world labels]
  | .benchmark s | .benchmarkReport s => net.benchmarkRuns world labels s

end NetCall

def performAll (net : Net Op) (world : World) : List NetCall → Performed Op World
  | [] => { net, world }
  | call :: rest =>
    let first := call.perform net world
    let later := performAll first.net first.world rest
    { later with
      events := first.events ++ later.events
      returned := first.returned ++ later.returned }

def attachedAfter (labels : List String) (calls : List NetCall) : List String :=
  calls.foldl NetCall.attached labels

def returnedBy (labels : List String) : List NetCall → List (List String)
  | [] => []
  | call :: rest => call.returned labels ++ returnedBy (call.attached labels) rest

/-- The whole runs that calls start, each with those who are attached to the net when it takes place. -/
def wholeRunsOf (labels : List String) (net : Net Op) (world : World) : List NetCall → List WholeRun
  | [] => []
  | call :: rest =>
    let first := call.perform net world
    call.wholeRuns labels net world ++ wholeRunsOf (call.attached labels) first.net first.world rest

/-! ## What is told of a history -/

/-- What the net does in one piece: a whole run, or the run of one operator on its own. -/
inductive Stretch
  | whole (run : WholeRun)
  | alone (position : Nat)

namespace Stretch

def events : Stretch → List Event
  | whole r => r.events
  | alone i => [.operatorRun i]

def whole? : Stretch → Option WholeRun
  | whole r => some r
  | alone _ => none

end Stretch

/-- Whole runs, and operators on their own behind them. -/
theorem stretches_of_parts {events : List Event} {runs : List WholeRun} (positions : List Nat)
    (h : told events = runs.flatMap WholeRun.events ++ positions.map .operatorRun) :
    ∃ stretches : List Stretch, stretches.filterMap Stretch.whole? = runs ∧
      told events = stretches.flatMap Stretch.events := by
  refine ⟨runs.map .whole ++ positions.map .alone, ?_, ?_⟩
  · rw [List.filterMap_append, List.filterMap_map, List.filterMap_map]
    simp [Function.comp_def, Stretch.whole?]
  · rw [h, List.flatMap_append, List.flatMap_map, List.flatMap_map]
    simp [Stretch.events, List.map_eq_flatMap]

namespace NetCall

theorem perform_labels (net : Net Op) (world : World) (call : NetCall) :
    (call.perform net world).net.observers.labels = call.attached net.observers.labels := by
  cases call with
  | attach label => rfl
  | detach => rfl
  | run => exact congrArg Observers.labels (net.run_observers world)
  | runAsync => exact congrArg Observers.labels (net.run_observers world)
  | benchmark s => exact congrArg Observers.labels (net.benchmarkReport_told world s).2
  | benchmarkReport s => exact congrArg Observers.labels (net.benchmarkReport_told world s).2

theorem perform_returned (net : Net Op) (world : World) (call : NetCall) :
    (call.perform net world).returned = call.returned net.observers.labels := by
  cases call <;> rfl

theorem perform_told (net : Net Op) (world : World) (call : NetCall) :
    ∃ stretches : List Stretch,
      stretches.filterMap Stretch.whole? = call.wholeRuns net.observers.labels net world ∧
      told (call.perform net world).events = stretches.flatMap Stretch.events := by
  cases call with
  | attach label => exact ⟨[], rfl, rfl⟩
  | detach => exact ⟨[], rfl, rfl⟩
  | run => exact stretches_of_parts [] (by simp [perform, wholeRuns, net.run_told world])
  | runAsync => exact stretches_of_parts [] (by simp [perform, wholeRuns, Net.runAsync, net.run_told world])
  | benchmark s =>
    obtain ⟨positions, htold⟩ := (net.benchmarkReport_told world s).1
    exact stretches_of_parts positions htold
  | benchmarkReport s =>
    obtain ⟨positions, htold⟩ := (net.benchmarkReport_told world s).1
    exact stretches_of_parts positions htold

end NetCall

theorem performAll_labels (net : Net Op) (world : World) (calls : List NetCall) :
    (performAll net world calls).net.observers.labels = attachedAfter net.observers.labels calls := by
  induction calls generalizing net world with
  | nil => rfl
  | cons call rest ih =>
    have hlater := ih (call.perform net world).net (call.perform net world).world
    rw [NetCall.perform_labels] at hlater
    exact hlater

theorem performAll_returned (net : Net Op) (world : World) (calls : List NetCall) :
    (performAll net world calls).returned = returnedBy net.observers.labels calls := by
  induction calls generalizing net world with
  | nil => rfl
  | cons call rest ih =>
    have hlater := ih (call.perform net world).net (call.perform net world).world
    rw [NetCall.perform_labels] at hlater
    rw [performAll, returnedBy, NetCall.perform_returned, hlater]

/-- What a history tells is that of its whole runs, and of operators on their own. -/
theorem performAll_told (net : Net Op) (world : World) (calls : List NetCall) :
    ∃ stretches : List Stretch,
      stretches.filterMap Stretch.whole? = wholeRunsOf net.observers.labels net world calls ∧
      told (performAll net world calls).events = stretches.flatMap Stretch.events := by
  induction calls generalizing net world with
  | nil => exact ⟨[], rfl, rfl⟩
  | cons call rest ih =>
    obtain ⟨first, hruns, hfirst⟩ := call.perform_told net world
    obtain ⟨later, hlaterRuns, hlater⟩ := ih (call.perform net world).net (call.perform net world).world
    rw [NetCall.perform_labels] at hlaterRuns
    refine ⟨first ++ later, ?_, ?_⟩
    · rw [List.filterMap_append, hruns, hlaterRuns, wholeRunsOf]
    · rw [performAll, told_append, hfirst, hlater, List.flatMap_append]

/-! ## What observers hear -/

inductive Notice
  | start | stop
  deriving DecidableEq

namespace WholeRun

/-- What an observer hears that is attached once. -/
def block (r : WholeRun) : List Notice := .start :: if r.succeeded then [.stop] else []

/-- What an observer hears, once for each time that it is attached. -/
def heard (label : String) (r : WholeRun) : List Notice :=
  List.replicate (r.labels.count label) .start ++
    if r.succeeded then List.replicate (r.labels.count label) .stop else []

theorem heard_once {label : String} {r : WholeRun} (h : r.labels.count label ≤ 1) :
    r.heard label = if label ∈ r.labels then r.block else [] := by
  by_cases hmem : label ∈ r.labels
  · have hcount : r.labels.count label = 1 := Nat.le_antisymm h (List.count_pos_iff.mpr hmem)
    rw [heard, hcount, if_pos hmem]
    rfl
  · rw [heard, List.count_eq_zero.mpr hmem, if_neg hmem]
    cases r.succeeded <;> rfl

end WholeRun

/-- What the observers with a label hear of an event. -/
def Event.notice (label : String) : Event → Option Notice
  | .observerStart l => if l = label then some .start else none
  | .observerStop l => if l = label then some .stop else none
  | _ => none

def heard (label : String) (events : List Event) : List Notice := events.filterMap (Event.notice label)

theorem heard_told (label : String) (events : List Event) : heard label (told events) = heard label events := by
  rw [heard, told, List.filterMap_filter, heard]
  congr 1
  funext e
  cases e <;> rfl

theorem heard_append (label : String) (before behind : List Event) :
    heard label (before ++ behind) = heard label before ++ heard label behind := List.filterMap_append ..

theorem filterMap_notice (label : String) (notice : Notice) (labels : List String) :
    (labels.filterMap fun l => if l = label then some notice else none) =
      List.replicate (labels.count label) notice := by
  induction labels with
  | nil => rfl
  | cons l rest ih => by_cases hl : l = label <;> simp [hl, ih, List.replicate_succ]

theorem heard_starts (label : String) (labels : List String) :
    heard label (labels.map .observerStart) = List.replicate (labels.count label) .start := by
  rw [heard, List.filterMap_map]
  exact filterMap_notice label .start labels

theorem heard_stops (label : String) (labels : List String) :
    heard label (labels.map .observerStop) = List.replicate (labels.count label) .stop := by
  rw [heard, List.filterMap_map]
  exact filterMap_notice label .stop labels

theorem heard_operatorRuns (label : String) (positions : List Nat) :
    heard label (positions.map .operatorRun) = [] := by
  rw [heard, List.filterMap_map, List.filterMap_eq_nil_iff]
  exact fun i _ => rfl

theorem WholeRun.heard_events (label : String) (r : WholeRun) : Dataflow.heard label r.events = r.heard label := by
  rw [WholeRun.events, WholeRun.heard, heard_append, heard_append, heard_starts, heard_operatorRuns, List.append_nil]
  cases r.succeeded with
  | false => rfl
  | true => simp only [if_true, heard_stops]

/-- Of operators that run on their own nothing is heard. -/
theorem heard_stretches (label : String) (stretches : List Stretch) :
    heard label (stretches.flatMap Stretch.events) =
      (stretches.filterMap Stretch.whole?).flatMap (WholeRun.heard label) := by
  induction stretches with
  | nil => rfl
  | cons stretch rest ih =>
    rw [List.flatMap_cons, heard_append, ih]
    cases stretch with
    | whole r => rw [Stretch.events, r.heard_events]; rfl
    | alone i => rfl

theorem performAll_heard (net : Net Op) (world : World) (calls : List NetCall) (label : String) :
    heard label (performAll net world calls).events =
      (wholeRunsOf net.observers.labels net world calls).flatMap (WholeRun.heard label) := by
  obtain ⟨stretches, hruns, htold⟩ := performAll_told net world calls
  rw [← heard_told, htold, heard_stretches, hruns]

theorem heard_once {label : String} {runs : List WholeRun} (h : ∀ r ∈ runs, r.labels.count label ≤ 1) :
    runs.flatMap (WholeRun.heard label) = (runs.filter (label ∈ ·.labels)).flatMap WholeRun.block := by
  induction runs with
  | nil => rfl
  | cons r rest ih =>
    obtain ⟨hr, hrest⟩ := List.forall_mem_cons.mp h
    rw [List.flatMap_cons, WholeRun.heard_once hr, ih hrest]
    by_cases hmem : label ∈ r.labels <;> simp [hmem]

/-! ## Observers that are not attached -/

theorem Net.runsInRow_labels {net : Net Op} {world : World} {labels : List String} {count : Nat} {r : WholeRun}
    (h : r ∈ net.runsInRow world labels count) : r.labels = labels := by
  induction count generalizing net world with
  | zero => cases h
  | succ count ih =>
    rw [Net.runsInRow] at h
    rcases List.mem_cons.mp h with rfl | hlater
    · rfl
    · cases ho : (net.run world).outcome.isOk with
      | false => rw [ho] at hlater; cases hlater
      | true => rw [ho] at hlater; exact ih hlater

theorem Net.benchmarkRuns_labels {net : Net Op} {world : World} {labels : List String} {s : BenchmarkSetting}
    {r : WholeRun} (h : r ∈ net.benchmarkRuns world labels s) : r.labels = labels := by
  unfold Net.benchmarkRuns at h
  split at h
  · cases h
  · exact runsInRow_labels h

theorem NetCall.wholeRuns_labels {call : NetCall} {labels : List String} {net : Net Op} {world : World} {r : WholeRun}
    (h : r ∈ call.wholeRuns labels net world) : r.labels = labels := by
  cases call with
  | attach label => cases h
  | detach => cases h
  | run => rw [List.mem_singleton.mp h]; rfl
  | runAsync => rw [List.mem_singleton.mp h]; rfl
  | benchmark s => exact Net.benchmarkRuns_labels h
  | benchmarkReport s => exact Net.benchmarkRuns_labels h

theorem NetCall.not_mem_attached {call : NetCall} {label : String} {labels : List String} (h : label ∉ labels)
    (hcall : call ≠ .attach label) : label ∉ call.attached labels := by
  cases call with
  | attach l =>
    have hl : label ≠ l := fun hl => hcall (hl ▸ rfl)
    simpa [NetCall.attached, hl] using h
  | detach => exact List.not_mem_nil
  | run => exact h
  | runAsync => exact h
  | benchmark s => exact h
  | benchmarkReport s => exact h

theorem not_mem_wholeRunsOf {label : String} {labels : List String} {net : Net Op} {world : World}
    {calls : List NetCall} (h : label ∉ labels) (hcalls : .attach label ∉ calls) :
    ∀ r ∈ wholeRunsOf labels net world calls, label ∉ r.labels := by
  induction calls generalizing labels net world with
  | nil => exact fun r hr => absurd hr List.not_mem_nil
  | cons call rest ih =>
    obtain ⟨hcall, hrest⟩ := not_or.mp fun hmem => hcalls (List.mem_cons.mpr hmem)
    intro r hr
    rcases List.mem_append.mp hr with hfirst | hlater
    · rw [NetCall.wholeRuns_labels hfirst]
      exact h
    · exact ih (NetCall.not_mem_attached h (Ne.symm hcall)) hrest r hlater

theorem performAll_append (net : Net Op) (world : World) (before behind : List NetCall) :
    (performAll net world (before ++ behind)).events =
      (performAll net world before).events ++
        (performAll (performAll net world before).net (performAll net world before).world behind).events := by
  induction before generalizing net world with
  | nil => rfl
  | cons call rest ih =>
    rw [List.cons_append, performAll, ih, ← List.append_assoc]
    rfl

/-! ## What is heard of a history -/

/-- What it means that observers hear of the whole runs of a history, and of nothing else. -/
structure Net.HeardExactly (net : Net Op) (world : World) (calls : List NetCall) : Prop where
  /-- Attached are those that were attached since observers were last taken off, in that order. -/
  attached : (performAll net world calls).net.observers.labels = attachedAfter net.observers.labels calls
  returned : (performAll net world calls).returned = returnedBy net.observers.labels calls
  /-- Observers are told of the whole runs one after the other, in each of which all starts come before
  the first operator and all stops behind the last; between them operators run on their own only. -/
  told : ∃ stretches : List Stretch,
    stretches.filterMap Stretch.whole? = wholeRunsOf net.observers.labels net world calls ∧
    Dataflow.told (performAll net world calls).events = stretches.flatMap Stretch.events
  heard : ∀ label, Dataflow.heard label (performAll net world calls).events =
    (wholeRunsOf net.observers.labels net world calls).flatMap (WholeRun.heard label)
  /-- When it is never attached twice at a time, it hears one block of each whole run for which it is
  attached. -/
  once : ∀ label, (∀ r ∈ wholeRunsOf net.observers.labels net world calls, r.labels.count label ≤ 1) →
    Dataflow.heard label (performAll net world calls).events =
      ((wholeRunsOf net.observers.labels net world calls).filter (label ∈ ·.labels)).flatMap WholeRun.block
  silenced : ∀ before behind label, calls = before ++ .detach :: behind → .attach label ∉ behind →
    Dataflow.heard label (performAll net world calls).events =
      Dataflow.heard label (performAll net world before).events

/-- **Observers hear of the whole runs of a history, and of nothing else.** -/
theorem notices_of_whole_runs (net : Net Op) (world : World) (calls : List NetCall) :
    net.HeardExactly world calls where
  attached := performAll_labels net world calls
  returned := performAll_returned net world calls
  told := performAll_told net world calls
  heard := performAll_heard net world calls
  once label honce := by
    rw [performAll_heard, heard_once honce]
  silenced before behind label hcalls hsilent := by
    have hnone : heard label (performAll (performAll net world before).net (performAll net world before).world
        (.detach :: behind)).events = [] := by
      rw [performAll_heard, List.flatMap_eq_nil_iff]
      intro r hr
      have hout : label ∉ r.labels := not_mem_wholeRunsOf List.not_mem_nil hsilent r hr
      rw [WholeRun.heard, List.count_eq_zero.mpr hout]
      cases r.succeeded <;> rfl
    rw [hcalls, performAll_append, heard_append, hnone, List.append_nil]

-- The operator fails from its fourth run on, which is the main run of the last benchmark.
example :
    let net : Net Scripted.Actor :=
      { name := "net"
        operators := [⟨.copy { opType := "Work", name := "a" }, { name := "a", limit := some 3 }⟩] }
    let once : BenchmarkSetting := ⟨.empty, 0, 1, true, fun _ => 0⟩
    let calls : List NetCall :=
      [.attach "early", .run, .attach "late", .benchmark { once with mainRuns := -1 }, .benchmark once,
        .benchmark once, .run, .detach, .run]
    let all := performAll net {} calls
    heard "early" all.events = [.start, .stop, .start, .stop, .start, .start] ∧
      heard "late" all.events = [.start, .stop, .start, .start] ∧ all.returned = [["early", "late"]] := by
  decide +kernel

end Dataflow
