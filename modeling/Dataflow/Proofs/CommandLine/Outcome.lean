/-
How a call of the tool ends. Once its file is decoded and its inputs can be
made, the first of six obstacles that applies decides about the error, and the
call succeeds exactly when none applies (`perform_decided`). Obstacles look at
the command line and at the description of the net, and at runs on any workspace
whose shapes are those of the command line: never at the seed.
-/
import Dataflow.Proofs.Benchmark.Runs
import Dataflow.Proofs.CommandLine.Inputs
import Dataflow.Proofs.Net.Construction
import Dataflow.Proofs.Spec.RoundTrip

namespace Dataflow

open Reference Text

/-- The first obstacle of a list that applies decides about the error. -/
inductive Decides {κ ε : Type} (applies : κ → ε → Prop) : List κ → ε → Prop
  | here {k : κ} {rest : List κ} {e : ε} (h : applies k e) : Decides applies (k :: rest) e
  | later {k : κ} {rest : List κ} {e : ε} (hnot : ∀ e, ¬ applies k e) (h : Decides applies rest e) :
    Decides applies (k :: rest) e

theorem decides_or_none {κ ε : Type} (applies : κ → ε → Prop) (ks : List κ) :
    (∃ e, Decides applies ks e) ∨ ∀ k ∈ ks, ∀ e, ¬ applies k e := by
  induction ks with
  | nil => exact .inr fun _ hk => absurd hk List.not_mem_nil
  | cons k ks ih =>
    by_cases hk : ∃ e, applies k e
    · obtain ⟨e, he⟩ := hk
      exact .inl ⟨e, .here he⟩
    · have hnot : ∀ e, ¬ applies k e := not_exists.mp hk
      rcases ih with ⟨e, he⟩ | hnone
      · exact .inl ⟨e, .later hnot he⟩
      · exact .inr (List.forall_mem_cons.mpr ⟨hnot, hnone⟩)

theorem Decides.not_none {κ ε : Type} {applies : κ → ε → Prop} {ks : List κ} {e : ε} (h : Decides applies ks e) :
    ¬ ∀ k ∈ ks, ∀ e, ¬ applies k e := by
  intro hnone
  induction h with
  | here h => exact hnone _ (List.mem_cons_self ..) _ h
  | later _ _ ih => exact ih (List.forall_mem_cons.mp hnone).2

theorem NetSpec.load_text {files : Files} {path text : String} (h : files path = .ok text.toUTF8) :
    NetSpec.load files path = (NetSpec.decode text).mapError LoadError.decoding := by
  have htext : files.text path = .ok text := by
    have hvalid : String.fromUTF8? text.toUTF8 = some text := dif_pos text.isValidUTF8
    simp only [Files.text, h, bind, Except.bind, hvalid]
  simp only [NetSpec.load, htext]
  rfl

namespace Tool

/-- What can keep a call from its report, once its file is decoded and its inputs are made. -/
inductive Obstacle
  | missingInputs
  | unknownType
  /-- an operator that cannot be made -/
  | operator
  | warmupCount
  | mainCount
  /-- a warm up run, a main run or an individually timed run that fails -/
  | run

namespace Obstacle

/-- The obstacles, that which is looked at first in front. -/
def inOrder : List Obstacle := [missingInputs, unknownType, operator, warmupCount, mainCount, run]

/-- When an obstacle applies, and the error that it leads to. For runs, the net is run again and again
on a workspace of the shapes that the command line names. -/
def Applies (args : Arguments) (spec : NetSpec) : Obstacle → ToolError → Prop
  | missingInputs, e => unnamed spec args.inputs ≠ [] ∧ e = .missingInputs (unnamed spec args.inputs)
  | unknownType, e => spec.strategy ≠ simpleNetType ∧ e = .net (.unknownNetType spec.strategy)
  | operator, e => ∃ (p : Fin spec.ops.length) (cause : Failure),
      (∀ i < p, ∃ op, ofSpec (spec.ops.get i) = .ok op) ∧ ofSpec (spec.ops.get p) = .error cause ∧
        e = .net (.operatorCreation p (spec.ops.get p).opType cause)
  | warmupCount, e => args.warmupRuns < 0 ∧ e = .net (.invalidRunCount .warmup args.warmupRuns)
  | mainCount, e => args.mainRuns < 0 ∧ e = .net (.invalidRunCount .main args.mainRuns)
  | run, e => ∃ (net : Net RefOperator) (ws : Workspace), (Net.build spec factory ()).outcome = .ok net ∧
      ws.Holds args.inputs ∧ ∃ t < (benchmarkSetting args fun _ => 0).runs,
        (∀ u < t, (net.call ws u).outcome = .ok ()) ∧ ∃ failed, (net.call ws t).outcome = .error failed ∧
          e = .net ((benchmarkSetting args fun _ => 0).errorOf t failed)

end Obstacle

variable {args : Arguments} {spec : NetSpec}

/-! ## The parts of a call -/

/-- The net as the tool shows it: its ranges as spans, its trace events in the log. -/
def shown (args : Arguments) (default : ExecutionConfig) (net : Net RefOperator) : Net RefOperator :=
  { net with config := config args default, profiler := .newSpans, traceSink := .logged }

theorem create_outcome (args : Arguments) (default : ExecutionConfig) (spec : NetSpec) :
    (NetRegistry.withDefaults.create spec factory () (config args default)).outcome =
      if spec.strategy = simpleNetType then (Net.build spec factory ()).outcome.map (shown args default)
      else .error (.unknownNetType spec.strategy) := by
  simp only [NetRegistry.create, NetRegistry.withDefaults, NameMap.get?_insert, NameMap.get?_empty]
  split
  next h => rw [if_neg fun hs => by simp [hs] at h]
  next h => split at h <;> cases h; rw [if_pos ‹_›]; rfl

/-- What comes of a call whose inputs are made, its checks one behind the other. -/
def verdict (args : Arguments) (default : ExecutionConfig) (clock : Clock) (spec : NetSpec) (ws : Workspace) :
    Except ToolError BenchmarkReport :=
  if unnamed spec args.inputs ≠ [] then .error (.missingInputs (unnamed spec args.inputs))
  else if spec.strategy ≠ simpleNetType then .error (.net (.unknownNetType spec.strategy))
  else
    match (Net.build spec factory ()).outcome with
    | .error e => .error (.net e)
    | .ok net => ((shown args default net).benchmarkReport ws (benchmarkSetting args clock)).outcome.mapError .net

theorem buildNet_missing {ws : Workspace} (hws : ws.Holds args.inputs) (default : ExecutionConfig)
    (hmissing : unnamed spec args.inputs ≠ []) :
    buildNet args default spec ws =
      { events := [], outcome := .error (.missingInputs (unnamed spec args.inputs)) } := by
  unfold buildNet
  rw [missingInputs_eq hws]
  split
  next h => exact absurd h hmissing
  next => rfl

theorem buildNet_outcome {ws : Workspace} (hws : ws.Holds args.inputs) (default : ExecutionConfig)
    (hmissing : unnamed spec args.inputs = []) :
    (buildNet args default spec ws).outcome =
      ((NetRegistry.withDefaults.create spec factory () (config args default)).outcome.map
        fun net => Prepared.mk net ws).mapError .net := by
  unfold buildNet
  rw [missingInputs_eq hws, hmissing]

theorem measure_outcome (args : Arguments) (clock : Clock) (p : Prepared) :
    (measure args clock p).outcome =
      (p.net.benchmarkReport p.workspace (benchmarkSetting args clock)).outcome.mapError .net := by
  unfold measure
  cases h : (p.net.benchmarkReport p.workspace (benchmarkSetting args clock)).outcome <;> simp only [h] <;> rfl

theorem andThen_outcome {α β : Type} (s : Stage α) (next : α → Stage β) :
    (s.andThen next).outcome = s.outcome.bind fun a => (next a).outcome := by
  unfold Stage.andThen
  cases s.outcome <;> rfl

theorem prepare_outcome (hfit : ∀ input ∈ args.inputs, input.Fits) (default : ExecutionConfig)
    (generator : Generator) (spec : NetSpec) :
    ∃ ws, ws.Holds args.inputs ∧
      (prepare args default generator spec).outcome = (buildNet args default spec ws).outcome := by
  obtain ⟨ws, hfed, -, hws⟩ := feedInputs_ok generator hfit args.seed
  refine ⟨ws, hws, ?_⟩
  simp only [prepare, andThen_outcome, hfed]
  rfl

/-- **A call ends as its checks say**, on a workspace of the shapes that the command line names. -/
theorem perform_outcome {files : Files} (hload : NetSpec.load files args.net = .ok spec)
    (hfit : ∀ input ∈ args.inputs, input.Fits) (default : ExecutionConfig) (generator : Generator) (clock : Clock) :
    ∃ ws, ws.Holds args.inputs ∧
      (perform args files default generator clock).outcome = verdict args default clock spec ws := by
  obtain ⟨ws, hws, hprepared⟩ := prepare_outcome hfit default generator spec
  refine ⟨ws, hws, ?_⟩
  simp only [perform, hload, andThen_outcome, hprepared, verdict]
  by_cases hmissing : unnamed spec args.inputs = []
  case neg =>
    rw [buildNet_missing hws default hmissing, if_pos hmissing]
    rfl
  rw [buildNet_outcome hws default hmissing, create_outcome, if_neg (not_not_intro hmissing)]
  by_cases htype : spec.strategy = simpleNetType
  case neg =>
    rw [if_neg htype, if_pos htype]
    rfl
  rw [if_pos htype, if_neg (not_not_intro htype)]
  cases (Net.build spec factory ()).outcome with
  | error e => rfl
  | ok net => exact measure_outcome args clock ⟨shown args default net, ws⟩

/-! ## Operators that cannot be made -/

theorem outcomeAt_calls (spec : NetSpec) (i : Fin spec.ops.length) :
    Factory.outcomeAt factory spec.calls () i = some (ofSpec (spec.ops.get i)) := by
  rw [outcomeAt_factory, NetSpec.calls]
  simp
  rfl

/-- The building fails at the first operator that cannot be made. -/
theorem build_rejected {p : Fin spec.ops.length} {cause : Failure}
    (hbefore : ∀ i < p, ∃ op, ofSpec (spec.ops.get i) = .ok op) (hcause : ofSpec (spec.ops.get p) = .error cause) :
    (Net.build spec factory ()).outcome = .error (.operatorCreation p (spec.ops.get p).opType cause) := by
  have hrejected : Factory.FirstRejected factory spec.calls () p cause := by
    refine ⟨fun i hi => ?_, by rw [outcomeAt_calls, hcause]⟩
    have hlt : i < spec.ops.length := Nat.lt_trans hi p.isLt
    obtain ⟨op, hop⟩ := hbefore ⟨i, hlt⟩ hi
    exact ⟨op, (outcomeAt_calls spec ⟨i, hlt⟩).trans (congrArg some hop)⟩
  obtain ⟨_, herror, -⟩ := (spec.buildsAllOrNothing factory ()).rejected p cause hrejected
  exact herror

theorem build_made (h : ∀ e, ¬ Obstacle.operator.Applies args spec e) :
    ∃ net, (Net.build spec factory ()).outcome = .ok net := by
  rcases (spec.buildsAllOrNothing factory ()).decided with hall | ⟨p, cause, hp⟩
  · obtain ⟨ops, hbuilt, -⟩ := (spec.buildsAllOrNothing factory ()).made hall
    exact ⟨_, hbuilt⟩
  · obtain ⟨hlt, -⟩ := (spec.buildsAllOrNothing factory ()).rejected p cause hp
    refine absurd ⟨⟨p, hlt⟩, cause, fun i hi => ?_, ?_, rfl⟩ (h _)
    · obtain ⟨op, hop⟩ := hp.before i hi
      exact ⟨op, Option.some.inj ((outcomeAt_calls spec i).symm.trans hop)⟩
    · exact Option.some.inj ((outcomeAt_calls spec ⟨p, hlt⟩).symm.trans hp.here)

/-! ## Runs that fail -/

section Runs

variable {net : Net RefOperator} {ws ws' : Workspace} {s : BenchmarkSetting}

/-- Runs of the net on one workspace decide about benchmarks of the shown net on another one with the same
shapes. -/
theorem benchmark_shown (default : ExecutionConfig) (hws : ws.Holds args.inputs) (hws' : ws'.Holds args.inputs)
    (hcheck : s.check = .ok ()) :
    match (net.runTimes ws s.runs).1.outcome with
    | .ok () => ∃ report, ((shown args default net).benchmarkReport ws' s).outcome = .ok report
    | .error e => ((shown args default net).benchmarkReport ws' s).outcome =
        .error (s.errorOf (net.runTimes ws s.runs).2 e) := by
  obtain ⟨hruns, hcount⟩ := SameShapes.runsAlike.runTimes s.runs
    (show net.operators = (shown args default net).operators from rfl) (hws.sameShapes hws')
  have hbench := (Reference.unnoticed.benchmarkReport (shown args default net) ws' hcheck).outcome
  rw [hruns.outcome, hcount]
  exact hbench

theorem benchmark_refused (default : ExecutionConfig) (ws : Workspace) (clock : Clock)
    (h : args.warmupRuns < 0 ∨ args.mainRuns < 0) :
    ((shown args default net).benchmarkReport ws (benchmarkSetting args clock)).outcome =
      .error (if args.warmupRuns < 0 then .invalidRunCount .warmup args.warmupRuns
        else .invalidRunCount .main args.mainRuns) :=
  ((Reference.unnoticed.benchmarkIsRuns (shown args default net) ws (benchmarkSetting args clock)).refused h).1

theorem benchmark_failed (default : ExecutionConfig) (hws : ws.Holds args.inputs) (hws' : ws'.Holds args.inputs)
    (hcheck : s.check = .ok ()) {t : Nat} (ht : t < s.runs) (hbefore : ∀ u < t, (net.call ws u).outcome = .ok ())
    {e : NetError} (he : (net.call ws t).outcome = .error e) :
    ((shown args default net).benchmarkReport ws' s).outcome = .error (s.errorOf t e) := by
  have hbench := @benchmark_shown args net ws ws' s default hws hws' hcheck
  obtain ⟨hcount, herror, -⟩ := Net.runTimes_of_error ht hbefore he
  rwa [herror, hcount] at hbench

theorem benchmark_ran (default : ExecutionConfig) (hws : ws.Holds args.inputs) (hcheck : s.check = .ok ())
    (hran : ∀ t < s.runs, (net.call ws t).outcome = .ok ()) :
    ∃ report, ((shown args default net).benchmarkReport ws s).outcome = .ok report := by
  have hbench := @benchmark_shown args net ws ws s default hws hws hcheck
  rwa [Net.runTimes_ok_iff.mpr hran] at hbench

end Runs

/-! ## The first obstacle -/

/-- The error that the first obstacle leads to is that of the checks. -/
theorem verdict_of_decides {ws : Workspace} (hws : ws.Holds args.inputs) (default : ExecutionConfig) (clock : Clock)
    {e : ToolError} (h : Decides (Obstacle.Applies args spec) Obstacle.inOrder e) :
    verdict args default clock spec ws = .error e := by
  unfold verdict
  cases h with
  | here h => rw [if_pos h.1, h.2]
  | later hnamed h =>
  rw [if_neg fun hne => hnamed _ ⟨hne, rfl⟩]
  cases h with
  | here h => rw [if_pos h.1, h.2]
  | later htype h =>
  rw [if_neg fun hne => htype _ ⟨hne, rfl⟩]
  cases h with
  | here h =>
    obtain ⟨p, cause, hbefore, hcause, rfl⟩ := h
    rw [build_rejected hbefore hcause]
  | later hmade h =>
  obtain ⟨net, hnet⟩ := build_made hmade
  simp only [hnet]
  cases h with
  | here h =>
    rw [benchmark_refused default ws clock (.inl h.1), if_pos h.1, h.2]
    rfl
  | later hwarmup h =>
  have hw : ¬ args.warmupRuns < 0 := fun hneg => hwarmup _ ⟨hneg, rfl⟩
  cases h with
  | here h =>
    rw [benchmark_refused default ws clock (.inr h.1), if_neg hw, h.2]
    rfl
  | later hmain h =>
  have hm : ¬ args.mainRuns < 0 := fun hneg => hmain _ ⟨hneg, rfl⟩
  cases h with
  | here h =>
    obtain ⟨net', ws', hnet', hws', t, ht, hbefore, failed, hfailed, rfl⟩ := h
    obtain rfl : net = net' := Except.ok.inj (hnet.symm.trans hnet')
    have hok := BenchmarkSetting.check_ok (benchmarkSetting args clock) (Int.not_lt.mp hw) (Int.not_lt.mp hm)
    rw [benchmark_failed default hws' hws hok ht hbefore hfailed]
    rfl
  | later _ h => cases h

/-- Without an obstacle there is a report. -/
theorem verdict_of_none {ws : Workspace} (hws : ws.Holds args.inputs) (default : ExecutionConfig) (clock : Clock)
    (h : ∀ k ∈ Obstacle.inOrder, ∀ e, ¬ k.Applies args spec e) :
    ∃ report, verdict args default clock spec ws = .ok report := by
  simp only [Obstacle.inOrder, List.forall_mem_cons] at h
  obtain ⟨hnamed, htype, hmade, hwarmup, hmain, hrun, -⟩ := h
  obtain ⟨net, hnet⟩ := build_made hmade
  have hw : ¬ args.warmupRuns < 0 := fun hneg => hwarmup _ ⟨hneg, rfl⟩
  have hm : ¬ args.mainRuns < 0 := fun hneg => hmain _ ⟨hneg, rfl⟩
  have hran : ∀ t < (benchmarkSetting args clock).runs, (net.call ws t).outcome = .ok () := by
    rcases net.calls_cases ws (benchmarkSetting args clock).runs with hran | ⟨t, ht, hbefore, failed, hfailed⟩
    · exact hran
    · exact absurd ⟨net, ws, hnet, hws, t, ht, hbefore, failed, hfailed, rfl⟩ (hrun _)
  have hok := BenchmarkSetting.check_ok (benchmarkSetting args clock) (Int.not_lt.mp hw) (Int.not_lt.mp hm)
  obtain ⟨report, hreport⟩ := benchmark_ran default hws hok hran
  refine ⟨report, ?_⟩
  unfold verdict
  rw [if_neg fun hne => hnamed _ ⟨hne, rfl⟩, if_neg fun hne => htype _ ⟨hne, rfl⟩]
  simp only [hnet, hreport]
  rfl

/-- **The first obstacle that applies decides about the error**, and without an obstacle there is a
report. -/
theorem perform_decided {files : Files} (hload : NetSpec.load files args.net = .ok spec)
    (hfit : ∀ input ∈ args.inputs, input.Fits) (default : ExecutionConfig) (generator : Generator) (clock : Clock) :
    (∀ e, (perform args files default generator clock).outcome = .error e ↔
      Decides (Obstacle.Applies args spec) Obstacle.inOrder e) ∧
    ((∃ report, (perform args files default generator clock).outcome = .ok report) ↔
      ∀ k ∈ Obstacle.inOrder, ∀ e, ¬ k.Applies args spec e) := by
  obtain ⟨ws, hws, hout⟩ := perform_outcome hload hfit default generator clock
  rw [hout]
  rcases decides_or_none (Obstacle.Applies args spec) Obstacle.inOrder with ⟨e, he⟩ | hnone
  · have hverdict := verdict_of_decides hws default clock he
    refine ⟨fun e' => ⟨fun h => ?_, fun h => verdict_of_decides hws default clock h⟩, iff_of_false ?_ ?_⟩
    · rw [hverdict] at h
      exact Except.error.inj h ▸ he
    · rintro ⟨report, hreport⟩
      rw [hverdict] at hreport
      cases hreport
    · exact he.not_none
  · obtain ⟨report, hreport⟩ := verdict_of_none hws default clock hnone
    refine ⟨fun e => iff_of_false ?_ fun h => h.not_none hnone, iff_of_true ⟨report, hreport⟩ hnone⟩
    rw [hreport]
    exact fun h => nomatch h

/-! ## The end of a call -/

section Call

variable {words : List String} {around : Surroundings}

def call (args : Arguments) (around : Surroundings) : Stage BenchmarkReport :=
  perform args around.files (.ofEnvironment around.ranges) around.generator around.clock

def loading (args : Arguments) (spec : NetSpec) : Event :=
  logged s!"Loaded net {spec.name} with {spec.ops.length} operators from {quoted args.net}"

theorem call_of_not_loaded {e : LoadError} (h : NetSpec.load around.files args.net = .error e) :
    call args around = { events := [], outcome := .error (.load e) } := by
  simp only [call, perform, h]

/-- Neither the seed nor the numbers that the generator gives to it matter. -/
theorem call_redrawn (hfit : ∀ input ∈ args.inputs, input.Fits) (around : Surroundings) (seed : UInt64)
    (generator : Generator) :
    ((∃ report, (call { args with seed } { around with generator }).outcome = .ok report) ↔
      ∃ report, (call args around).outcome = .ok report) ∧
    ∀ e, (call { args with seed } { around with generator }).outcome = .error e ↔
      (call args around).outcome = .error e := by
  cases hload : NetSpec.load around.files args.net with
  | error e =>
    have hother : call { args with seed } { around with generator } = { events := [], outcome := .error (.load e) } :=
      call_of_not_loaded hload
    rw [call_of_not_loaded hload, hother]
    exact ⟨Iff.rfl, fun _ => Iff.rfl⟩
  | ok spec =>
    obtain ⟨herror, hok⟩ := perform_decided hload hfit (.ofEnvironment around.ranges) around.generator around.clock
    obtain ⟨herror', hok'⟩ := @perform_decided { args with seed } spec around.files hload hfit
      (.ofEnvironment around.ranges) generator around.clock
    -- No obstacle looks at either.
    exact ⟨hok'.trans hok.symm, fun e => (herror' e).trans (herror e).symm⟩

/-! ## Missing inputs -/

theorem unnamed_eq (spec : NetSpec) (inputs : List InputShape) :
    unnamed spec inputs = spec.externalInputs.filter fun name => ∀ input ∈ inputs, input.name ≠ name := by
  refine List.filter_congr fun name _ => decide_eq_decide.mpr ?_
  rw [List.mem_map, not_exists]
  exact forall_congr' fun input => not_and

theorem unnamed_ne_nil {inputs : List InputShape} :
    unnamed spec inputs ≠ [] ↔ ∃ name ∈ spec.externalInputs, ∀ input ∈ inputs, input.name ≠ name := by
  rw [unnamed_eq, Ne, List.filter_eq_nil_iff]
  push Not
  simp only [decide_eq_true_eq]

theorem verdict_missing {default : ExecutionConfig} {clock : Clock} {ws : Workspace} {names : List String} :
    verdict args default clock spec ws = .error (.missingInputs names) ↔
      unnamed spec args.inputs ≠ [] ∧ names = unnamed spec args.inputs := by
  unfold verdict
  by_cases hmissing : unnamed spec args.inputs ≠ []
  · rw [if_pos hmissing]
    simp [hmissing, eq_comm]
  · rw [if_neg hmissing]
    refine iff_of_false (fun h => ?_) fun h => hmissing h.1
    -- Every later check ends with an error of the net.
    split at h
    · cases h
    split at h
    · cases h
    next net _ =>
      cases hbench : ((shown args default net).benchmarkReport ws (benchmarkSetting args clock)).outcome <;>
        rw [hbench] at h <;> cases h

/-- With inputs missing, nothing happens but that the file is loaded and the inputs are made. -/
theorem call_missing_events (hload : NetSpec.load around.files args.net = .ok spec)
    (hfit : ∀ input ∈ args.inputs, input.Fits) (hmissing : unnamed spec args.inputs ≠ []) :
    (call args around).events = loading args spec :: args.inputs.map feeding := by
  obtain ⟨ws, hfed, hevents, hws⟩ := feedInputs_ok around.generator hfit args.seed
  simp only [call, perform, hload, prepare, Stage.andThen, hfed, buildNet_missing hws _ hmissing, hevents,
    List.append_nil]
  rfl

/-! ## The net that runs -/

theorem prepare_holds {p : Prepared} {default : ExecutionConfig} {generator : Generator}
    (hfit : ∀ input ∈ args.inputs, input.Fits) (h : (prepare args default generator spec).outcome = .ok p) :
    p.workspace.Holds args.inputs := by
  obtain ⟨ws, hws, hout⟩ := prepare_outcome hfit default generator spec
  rw [hout] at h
  by_cases hmissing : unnamed spec args.inputs = []
  case neg =>
    rw [buildNet_missing hws default hmissing] at h
    cases h
  rw [buildNet_outcome hws default hmissing] at h
  cases hcreated : (NetRegistry.withDefaults.create spec factory () (config args default)).outcome with
  | error e =>
    rw [hcreated] at h
    cases h
  | ok net =>
    rw [hcreated] at h
    cases h
    exact hws

/-! ## The exit of a call -/

def warnings (around : Surroundings) : String :=
  String.join ((LogFilter.ignored (around.logFilter.getD "")).map fun (part, fault) =>
    "ignoring `" ++ part ++ "`: " ++ fault.message ++ "\n")

theorem run_ok (hwords : Arguments.parse words = .ok args)
    (hfilter : LogFilter.breakOff? (around.logFilter.getD "") = none) {report : BenchmarkReport}
    (h : (call args around).outcome = .ok report) :
    ∃ output, run words around = ⟨0, output, withoutPlaces (warnings around), none⟩ := by
  rw [call] at h
  simp only [run, hwords, hfilter, h]
  exact ⟨_, rfl⟩

theorem run_error (hwords : Arguments.parse words = .ok args)
    (hfilter : LogFilter.breakOff? (around.logFilter.getD "") = none) {e : ToolError}
    (h : (call args around).outcome = .error e) :
    ∃ output, run words around = fail output (warnings around) e := by
  rw [call] at h
  simp only [run, hwords, hfilter, h]
  exact ⟨_, rfl⟩

/-- What is seen of two calls but for their output. -/
structure Exit.Alike (exit exit' : Exit) : Prop where
  code : exit.code = exit'.code
  errors : exit.errors = exit'.errors
  broken : exit.broken = exit'.broken

theorem fail_alike (output output' : List String) (warnings : String) (e : ToolError) :
    (fail output warnings e).Alike (fail output' warnings e) := by
  cases e <;> exact ⟨rfl, rfl, rfl⟩

theorem fail_code (output : List String) (warnings : String) (e : ToolError) :
    (fail output warnings e).code ≠ 0 := by
  cases e <;> exact nofun

/-- Calls with the same error, or none, exit alike. -/
theorem run_alike {words' : List String} {args' : Arguments} (hwords : Arguments.parse words = .ok args)
    (hwords' : Arguments.parse words' = .ok args')
    (hsame : ∀ e, (call args' around).outcome = .error e ↔ (call args around).outcome = .error e) :
    (run words' around).Alike (run words around) := by
  cases hfilter : LogFilter.breakOff? (around.logFilter.getD "") with
  | some place =>
    simp only [run, hwords, hwords', hfilter]
    exact ⟨rfl, rfl, rfl⟩
  | none =>
    cases hout : (call args around).outcome with
    | error e =>
      obtain ⟨output, hrun⟩ := run_error hwords hfilter hout
      obtain ⟨output', hrun'⟩ := run_error hwords' hfilter ((hsame e).mpr hout)
      rw [hrun, hrun']
      exact fail_alike output' output _ e
    | ok report =>
      obtain ⟨output, hrun⟩ := run_ok hwords hfilter hout
      cases hout' : (call args' around).outcome with
      | error e =>
        have := (hsame e).mp hout'
        rw [hout] at this
        cases this
      | ok report' =>
        obtain ⟨output', hrun'⟩ := run_ok hwords' hfilter hout'
        rw [hrun, hrun']
        exact ⟨rfl, rfl, rfl⟩

/-- A call exits with zero exactly when there is a report. -/
theorem run_code_zero (hwords : Arguments.parse words = .ok args)
    (hfilter : LogFilter.breakOff? (around.logFilter.getD "") = none) :
    (run words around).code = 0 ↔ ∃ report, (call args around).outcome = .ok report := by
  cases hout : (call args around).outcome with
  | error e =>
    obtain ⟨output, hrun⟩ := run_error hwords hfilter hout
    rw [hrun]
    exact iff_of_false (fail_code output _ e) (fun ⟨_, h⟩ => nomatch h)
  | ok report =>
    obtain ⟨output, hrun⟩ := run_ok hwords hfilter hout
    rw [hrun]
    exact iff_of_true rfl ⟨report, rfl⟩

/-- What it means that a call ends as its command line and its file say, whatever the random values. -/
structure Settled (words : List String) (args : Arguments) (around : Surroundings) : Prop where
  /-- Another seed leads again to a report, or to the same error. -/
  seed : ∀ seed, ((∃ report, (call { args with seed } around).outcome = .ok report) ↔
      ∃ report, (call args around).outcome = .ok report) ∧
    ∀ e, (call { args with seed } around).outcome = .error e ↔ (call args around).outcome = .error e
  /-- So do other numbers for the same seed. -/
  values : ∀ generator, ((∃ report, (call args { around with generator }).outcome = .ok report) ↔
      ∃ report, (call args around).outcome = .ok report) ∧
    ∀ e, (call args { around with generator }).outcome = .error e ↔ (call args around).outcome = .error e
  exit : ∀ words' seed, Arguments.parse words' = .ok { args with seed } →
    (run words' around).Alike (run words around)
  unloaded : ∀ e, NetSpec.load around.files args.net = .error e → (call args around).outcome = .error (.load e)
  /-- Inputs are missing exactly when no input names some external input of the net. The error lists these
  in the order of the net, and nothing has happened but that the file was loaded and inputs were made. -/
  missing : ∀ spec, NetSpec.load around.files args.net = .ok spec →
    ((∃ names, (call args around).outcome = .error (.missingInputs names)) ↔
      ∃ name ∈ spec.externalInputs, ∀ input ∈ args.inputs, input.name ≠ name) ∧
    ∀ names, (call args around).outcome = .error (.missingInputs names) →
      names = (spec.externalInputs.filter fun name => ∀ input ∈ args.inputs, input.name ≠ name) ∧
        (call args around).events = loading args spec :: args.inputs.map feeding
  /-- The net runs on a workspace where each name has the shape of the last input of this name. -/
  last : ∀ spec p, (prepare args (.ofEnvironment around.ranges) around.generator spec).outcome = .ok p →
    ∀ name, p.workspace.shape? name = InputShape.last? args.inputs name
  decided : ∀ spec, NetSpec.load around.files args.net = .ok spec →
    (∀ e, (call args around).outcome = .error e ↔ Decides (Obstacle.Applies args spec) Obstacle.inOrder e) ∧
    ((∃ report, (call args around).outcome = .ok report) ↔
      ∀ k ∈ Obstacle.inOrder, ∀ e, ¬ k.Applies args spec e)
  code : LogFilter.breakOff? (around.logFilter.getD "") = none →
    ((run words around).code = 0 ↔ ∃ report, (call args around).outcome = .ok report)

/-- **A call ends as its command line and its file say**, whatever the random values: if its inputs can be
made, the first obstacle that applies decides. -/
theorem run_settled (hwords : Arguments.parse words = .ok args) (hfit : ∀ input ∈ args.inputs, input.Fits)
    (around : Surroundings) : Settled words args around where
  seed seed := call_redrawn hfit around seed around.generator
  values generator := call_redrawn hfit around args.seed generator
  exit words' seed hwords' := run_alike hwords hwords' (call_redrawn hfit around seed around.generator).2
  unloaded e h := congrArg Stage.outcome (call_of_not_loaded h)
  missing spec hload := by
    obtain ⟨ws, -, hout⟩ := perform_outcome hload hfit (.ofEnvironment around.ranges) around.generator around.clock
    have hverdict : ∀ names, (call args around).outcome = .error (.missingInputs names) ↔
        unnamed spec args.inputs ≠ [] ∧ names = unnamed spec args.inputs := fun names => by
      rw [call, hout, verdict_missing]
    refine ⟨?_, fun names h => ?_⟩
    · simp only [hverdict, exists_and_left, exists_eq, and_true, unnamed_ne_nil]
    · obtain ⟨hmissing, hnames⟩ := (hverdict names).mp h
      exact ⟨hnames.trans (unnamed_eq spec args.inputs), call_missing_events hload hfit hmissing⟩
  last spec p h := (prepare_holds hfit h).shape
  decided spec hload := perform_decided hload hfit (.ofEnvironment around.ranges) around.generator around.clock
  code hfilter := run_code_zero hwords hfilter

/-- A net that adds an input to another one, which it rectifies. -/
def rectifiedSum : NetSpec where
  name := "sum"
  ops := [{ opType := "Relu", inputs := ["x"], outputs := ["y"] },
    { opType := "Add", inputs := ["y", "z"], outputs := ["s"] }]
  externalInputs := ["x", "z"]

def holdingSum : Surroundings where
  files := fun _ => .ok rectifiedSum.toJson.compact.toUTF8
  generator := ⟨fun seed n => if (seed.toNat + n) % 2 = 0 then -1 else 0, fun _ _ => by split <;> decide⟩
  clock := fun _ => 0

theorem load_rectifiedSum (path : String) : NetSpec.load holdingSum.files path = .ok rectifiedSum := by
  have hdecode : NetSpec.decode rectifiedSum.toJson.compact = .ok rectifiedSum := by
    rw [NetSpec.decode, rectifiedSum.sound_toJson.decode_compact]
    exact NetSpec.read_toJson 122 fun a ha => absurd ha List.not_mem_nil
  rw [NetSpec.load_text rfl, hdecode]
  rfl

/-- The first input is given twice, the second one not at all. -/
def oneMissing : Arguments where
  net := "sum.json"
  inputs := [⟨"x", ⟨[2, 3]⟩⟩, ⟨"x", ⟨[4]⟩⟩]
  seed := 7

/-- The last shape of the first input has as many elements as the second one. -/
def fitting : Arguments where
  net := "sum.json"
  inputs := [⟨"x", ⟨[2, 3]⟩⟩, ⟨"x", ⟨[4]⟩⟩, ⟨"z", ⟨[2, 2]⟩⟩]
  warmupRuns := 1
  mainRuns := 2
  individual := true
  seed := 7

/-- Only the first shape of the first input has as many elements as the second one. -/
def unfitting : Arguments where
  net := "sum.json"
  inputs := [⟨"x", ⟨[2, 3]⟩⟩, ⟨"x", ⟨[4]⟩⟩, ⟨"z", ⟨[3, 2]⟩⟩]
  mainRuns := 2
  seed := 7

/-- What the second operator fails with in the first main run. -/
def sumFailed : ToolError := .net (.mainRunFailed 0 (.operatorFailed 1 "" "Add" (.unequalSizes ⟨[4]⟩ ⟨[3, 2]⟩)))

def wordsMissing : List String := ["sum.json", "-i", "x=2x3", "-i", "x=4", "--seed", "7"]

def wordsFitting : List String :=
  ["sum.json", "-i", "x=2x3", "-i", "x=4", "-i", "z=2x2", "-w", "1", "-n", "2", "-r", "--seed", "7"]

def wordsUnfitting : List String :=
  ["sum.json", "-i", "x=2x3", "-i", "x=4", "-i", "z=3x2", "-n", "2", "--seed", "7"]

theorem inputs_fit : (∀ input ∈ oneMissing.inputs, input.Fits) ∧ (∀ input ∈ fitting.inputs, input.Fits) ∧
    ∀ input ∈ unfitting.inputs, input.Fits := by
  simp only [oneMissing, fitting, unfitting, List.forall_mem_cons, InputShape.Fits]
  decide

theorem call_fitting : (call fitting holdingSum).outcome.toOption.isSome = true := by
  rw [call, perform, load_rectifiedSum]
  rfl

theorem call_unfitting : (call unfitting holdingSum).outcome = .error sumFailed := by
  rw [call, perform, load_rectifiedSum]
  rfl

theorem run_settled_sum :
    (Arguments.parse wordsMissing = .ok oneMissing ∧
      (∀ seed, (call { oneMissing with seed } holdingSum).outcome = .error (.missingInputs ["z"])) ∧
      (call oneMissing holdingSum).events = loading oneMissing rectifiedSum :: oneMissing.inputs.map feeding ∧
      (run wordsMissing holdingSum).code ≠ 0) ∧
    (Arguments.parse wordsFitting = .ok fitting ∧
      (∀ seed, ∃ report, (call { fitting with seed } holdingSum).outcome = .ok report) ∧
      (∀ k ∈ Obstacle.inOrder, ∀ e, ¬ k.Applies fitting rectifiedSum e) ∧
      (run wordsFitting holdingSum).code = 0) ∧
    Arguments.parse wordsUnfitting = .ok unfitting ∧
      (∀ seed, (call { unfitting with seed } holdingSum).outcome = .error sumFailed) ∧
      Decides (Obstacle.Applies unfitting rectifiedSum) Obstacle.inOrder sumFailed ∧
      (run wordsUnfitting holdingSum).code ≠ 0 := by
  have hwords : Arguments.parse wordsMissing = .ok oneMissing ∧ Arguments.parse wordsFitting = .ok fitting ∧
      Arguments.parse wordsUnfitting = .ok unfitting := ⟨rfl, rfl, rfl⟩
  have hmissing := run_settled hwords.1 inputs_fit.1 holdingSum
  have hfitting := run_settled hwords.2.1 inputs_fit.2.1 holdingSum
  have hunfitting := run_settled hwords.2.2 inputs_fit.2.2 holdingSum
  have hnamed : (call oneMissing holdingSum).outcome = .error (.missingInputs ["z"]) :=
    ((hmissing.decided _ (load_rectifiedSum _)).1 _).mpr (.here ⟨by decide, rfl⟩)
  obtain ⟨report, hreport⟩ : ∃ report, (call fitting holdingSum).outcome = .ok report := by
    have hran := call_fitting
    cases hout : (call fitting holdingSum).outcome with
    | ok report => exact ⟨report, rfl⟩
    | error e => rw [hout] at hran; cases hran
  refine ⟨⟨hwords.1, fun seed => ((hmissing.seed seed).2 _).mpr hnamed,
      ((hmissing.missing _ (load_rectifiedSum _)).2 _ hnamed).2, fun hcode => ?_⟩,
    ⟨hwords.2.1, fun seed => ((hfitting.seed seed).1).mpr ⟨report, hreport⟩,
      (hfitting.decided _ (load_rectifiedSum _)).2.mp ⟨report, hreport⟩, (hfitting.code rfl).mpr ⟨report, hreport⟩⟩,
    hwords.2.2, fun seed => ((hunfitting.seed seed).2 _).mpr call_unfitting,
    ((hunfitting.decided _ (load_rectifiedSum _)).1 _).mp call_unfitting, fun hcode => ?_⟩
  · obtain ⟨report, hreport⟩ := (hmissing.code rfl).mp hcode
    rw [hnamed] at hreport
    cases hreport
  · obtain ⟨report, hreport⟩ := (hunfitting.code rfl).mp hcode
    rw [call_unfitting] at hreport
    cases hreport

end Call

end Tool

end Dataflow
