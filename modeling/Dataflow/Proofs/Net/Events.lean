/-
The events of a run, in their order. Ranges that are opened and ended one after
the other leave a profiler with the open ranges that it had before
(`Profiler.opened_afterRanges`), whatever becomes of the operators inside them.
A run is told apart into turns, and `run_events` says what each turn, the
beginning and the end of the run show.
-/
import Dataflow.Proofs.Net.Turns

namespace Dataflow

variable {Op World : Type} [Operator Op World]

/-! ## Ranges one after the other -/

namespace Profiler

/-- The profiler after so many ranges that were each ended before the next one began. -/
def afterRanges (count : Nat) : Profiler → Profiler
  | .silent => .silent
  | .spans next opened => .spans (next + count) opened
  | .recorder pending => .recorder (pending + 2 * count)

def rangeAt (p : Profiler) (count : Nat) (label : String) : ProfilerRange :=
  ((p.afterRanges count).startRange label .run).1

/-- What the end of a range closes: only the span profiler keeps what is open. -/
def closedBy (p : Profiler) (range : ProfilerRange) : Option ProfilerRange :=
  if p.isSpans then some range else none

@[simp] theorem afterRanges_zero (p : Profiler) : p.afterRanges 0 = p := by cases p <;> rfl

theorem afterRanges_add (p : Profiler) (count more : Nat) :
    (p.afterRanges count).afterRanges more = p.afterRanges (count + more) := by
  cases p with
  | silent => rfl
  | spans next opened => simp only [afterRanges, Nat.add_assoc]
  | recorder pending => simp only [afterRanges, Nat.add_assoc, Nat.mul_add]

@[simp] theorem opened_afterRanges (p : Profiler) (count : Nat) : (p.afterRanges count).opened = p.opened := by
  cases p <;> rfl

@[simp] theorem isSpans_afterRanges (p : Profiler) (count : Nat) : (p.afterRanges count).isSpans = p.isSpans := by
  cases p <;> rfl

theorem rangeAt_afterRanges (p : Profiler) (count more : Nat) (label : String) :
    (p.afterRanges count).rangeAt more label = p.rangeAt (count + more) label := by
  rw [rangeAt, afterRanges_add, ← rangeAt]

theorem takeOut_append (range : ProfilerRange) (opened : List ProfilerRange) :
    takeOut range.id (opened ++ [range]) = (some range, opened) := by
  simp [takeOut]

/-- The end of a range right behind its beginning closes it, and leaves the others open. -/
theorem endRange_startRange (p : Profiler) (label : String) (color : Color) :
    (p.startRange label color).2.endRange (p.startRange label color).1.id =
      (.rangeEnd (p.startRange label color).1.id (p.closedBy (p.startRange label color).1), p.afterRanges 1) := by
  cases p with
  | silent => rfl
  | spans next opened =>
    simp only [startRange, start, endRange, finish, afterRanges, closedBy, isSpans, if_true,
      takeOut_append ⟨next, label, color⟩ opened]
  | recorder pending => rfl

end Profiler

/-! ## Turns -/

/-- Whether an event is more than an entry of the log. -/
def Event.isCall : Event → Bool
  | .log _ => false
  | _ => true

namespace RunSetting

/-- What the operator at a position does and what is told of it, but for the log, when its range comes
behind so many others. -/
def turnEvents (setting : RunSetting) (p : Profiler) (count position : Nat) (o : NetOperator Op) : List Event :=
  let point := o.point setting.netName position
  let range := p.rangeAt count o.spec.opType
  let inside :=
    if setting.ranges then [.rangeStart range, .operatorRun position, .rangeEnd range.id (p.closedBy range)]
    else [.operatorRun position]
  .operatorStart point :: inside ++ [.operatorDone point]

def afterTurns (setting : RunSetting) (p : Profiler) (count : Nat) : Profiler :=
  if setting.ranges then p.afterRanges count else p

theorem turnEvents_afterTurns (setting : RunSetting) (p : Profiler) (count position : Nat) (o : NetOperator Op) :
    setting.turnEvents (setting.afterTurns p 1) count position o =
      setting.turnEvents p (count + 1) position o := by
  unfold turnEvents afterTurns
  cases setting.ranges with
  | false => rfl
  | true =>
    simp only [if_true, Profiler.rangeAt_afterRanges, Profiler.closedBy, Profiler.isSpans_afterRanges,
      Nat.add_comm 1 count]

theorem afterTurns_add (setting : RunSetting) (p : Profiler) (count more : Nat) :
    setting.afterTurns (setting.afterTurns p count) more = setting.afterTurns p (count + more) := by
  unfold afterTurns
  cases setting.ranges with
  | false => rfl
  | true => exact p.afterRanges_add count more

@[simp] theorem opened_afterTurns (setting : RunSetting) (p : Profiler) (count : Nat) :
    (setting.afterTurns p count).opened = p.opened := by
  unfold afterTurns
  split <;> simp

end RunSetting

/-- The events of an operator in its range, and the profiler behind it. -/
theorem runInRange_eq (setting : RunSetting) (position : Nat) (o : NetOperator Op) (world : World) (p : Profiler) :
    let inside := runInRange setting.ranges position o world p
    inside.1 = Operator.run o.op world ∧ inside.2.1 = setting.afterTurns p 1 ∧
      setting.turnEvents p 0 position o =
        .operatorStart (o.point setting.netName position) :: inside.2.2 ++
          [.operatorDone (o.point setting.netName position)] := by
  unfold runInRange RunSetting.afterTurns RunSetting.turnEvents
  cases setting.ranges with
  | false => exact ⟨rfl, rfl, rfl⟩
  | true =>
    simp only [if_true, p.endRange_startRange, Profiler.rangeAt, Profiler.afterRanges_zero, and_self]

/-! ## Events beside the log -/

def calls (events : List Event) : List Event := events.filter Event.isCall

@[simp] theorem calls_nil : calls [] = [] := rfl

@[simp] theorem calls_append (before behind : List Event) : calls (before ++ behind) = calls before ++ calls behind :=
  List.filter_append ..

@[simp] theorem calls_logged_cons (level : Level) (target message : String) (events : List Event) :
    calls (.logged level target message :: events) = calls events := rfl

@[simp] theorem calls_turnEvents (setting : RunSetting) (p : Profiler) (count position : Nat) (o : NetOperator Op) :
    calls (setting.turnEvents p count position o) = setting.turnEvents p count position o := by
  unfold RunSetting.turnEvents
  cases setting.ranges <;> rfl

@[simp] theorem calls_started (observers : Observers) : calls observers.started = observers.started := by
  simp [calls, Observers.started, Event.isCall]

@[simp] theorem calls_stopped (observers : Observers) : calls observers.stopped = observers.stopped := by
  simp [calls, Observers.stopped, Event.isCall]

/-! ## Runs -/

def RunSetting.events (setting : RunSetting) (p : Profiler) (position : Nat) (ops : List (NetOperator Op)) :
    List Event :=
  (ops.mapIdx fun i o => setting.turnEvents p i (position + i) o).flatten

theorem RunSetting.events_cons (setting : RunSetting) (p : Profiler) (position : Nat) (o : NetOperator Op)
    (rest : List (NetOperator Op)) :
    setting.events p position (o :: rest) =
      setting.turnEvents p 0 position o ++ setting.events (setting.afterTurns p 1) (position + 1) rest := by
  simp only [events, List.mapIdx_cons, List.flatten_cons, Nat.add_zero, turnEvents_afterTurns]
  congr 3
  funext i o
  rw [Nat.add_right_comm, Nat.add_assoc]

theorem runOperators_cons_failed (setting : RunSetting) (position : Nat) {o : NetOperator Op}
    (rest : List (NetOperator Op)) {world : World} (p : Profiler) {cause : Failure}
    (h : (Operator.run o.op world).failure = some cause) :
    let all := runOperators setting position (o :: rest) world p
    calls all.events = setting.turnEvents p 0 position o ∧ all.profiler = setting.afterTurns p 1 := by
  obtain ⟨hran, hprofiler, hevents⟩ := runInRange_eq setting position o world p
  simp only [runOperators, hran, h, hprofiler, and_true, List.cons_append, ← hevents]
  simp

theorem runOperators_cons_ran (setting : RunSetting) (position : Nat) {o : NetOperator Op}
    (rest : List (NetOperator Op)) {world : World} (p : Profiler) (h : (Operator.run o.op world).failure = none) :
    let all := runOperators setting position (o :: rest) world p
    let later := runOperators setting (position + 1) rest (Operator.run o.op world).world (setting.afterTurns p 1)
    calls all.events = setting.turnEvents p 0 position o ++ calls later.events ∧ all.profiler = later.profiler := by
  obtain ⟨hran, hprofiler, hevents⟩ := runInRange_eq setting position o world p
  simp only [runOperators, hran, h, hprofiler, and_true, List.cons_append, ← hevents]
  simp

/-- When all operators run, every one of them has its turn. -/
theorem runOperators_of_ran {setting : RunSetting} {position : Nat} {ops : List (NetOperator Op)} {world : World}
    {p : Profiler} (h : AllRan ops world) :
    calls (runOperators setting position ops world p).events = setting.events p position ops ∧
      (runOperators setting position ops world p).profiler = setting.afterTurns p ops.length := by
  induction ops generalizing position world p with
  | nil => cases hr : setting.ranges <;> simp [runOperators, RunSetting.events, RunSetting.afterTurns, hr]
  | cons o rest ih =>
    obtain ⟨hevents, hprofiler⟩ := runOperators_cons_ran setting position rest p h.head
    obtain ⟨hlater, hleft⟩ := ih h.tail
    rw [hevents, hlater, hprofiler, hleft, setting.events_cons, setting.afterTurns_add, Nat.add_comm 1]
    exact ⟨rfl, rfl⟩

/-- When an operator fails, it and the operators before it have their turns. -/
theorem runOperators_of_failed {setting : RunSetting} {position : Nat} {ops : List (NetOperator Op)} {world : World}
    {p : Profiler} {i : Fin ops.length} {cause : Failure} (h : FirstFailure ops world i cause) :
    calls (runOperators setting position ops world p).events = setting.events p position (ops.take (i + 1)) ∧
      (runOperators setting position ops world p).profiler = setting.afterTurns p (i + 1) := by
  induction ops generalizing position world p with
  | nil => exact i.elim0
  | cons o rest ih =>
    induction i using Fin.cases with
    | zero =>
      have ho : (Operator.run o.op world).failure = some cause := h.here
      obtain ⟨hevents, hprofiler⟩ := runOperators_cons_failed setting position rest p ho
      rw [hevents, hprofiler]
      simp [RunSetting.events]
    | succ i =>
      obtain ⟨hevents, hprofiler⟩ := runOperators_cons_ran setting position rest p h.head
      obtain ⟨hlater, hleft⟩ := ih h.tail
      rw [hevents, hlater, hprofiler, hleft, Fin.val_succ, List.take_succ_cons, setting.events_cons,
        setting.afterTurns_add, Nat.add_comm 1]
      exact ⟨rfl, rfl⟩

namespace Net

/-- The events of the first turns of a run, each with a range behind those of the turns before. -/
def turns (net : Net Op) (count : Nat) : List Event :=
  net.setting.events net.profiler 0 (net.operators.take count)

theorem run_calls (net : Net Op) (world : World) :
    calls (net.run world).events =
      net.observers.started ++ calls (runOperators net.setting 0 net.operators world net.profiler).events ++
        (if (net.run world).outcome.isOk then net.observers.stopped else []) := by
  unfold run
  cases h : (runOperators net.setting 0 net.operators world net.profiler).failure with
  | some e => simp [h, Except.isOk, Except.toBool]
  | none => simp [h, Except.isOk, Except.toBool]

theorem run_profiler (net : Net Op) (world : World) :
    (net.run world).net.profiler = (runOperators net.setting 0 net.operators world net.profiler).profiler := by
  simp only [run]
  cases (runOperators net.setting 0 net.operators world net.profiler).failure <;> rfl

theorem run_observers (net : Net Op) (world : World) : (net.run world).net.observers = net.observers := by
  unfold run
  cases h : (runOperators net.setting 0 net.operators world net.profiler).failure <;> simp only [h]

theorem run_setting (net : Net Op) (world : World) : (net.run world).net.setting = net.setting := by
  unfold run
  cases h : (runOperators net.setting 0 net.operators world net.profiler).failure <;> simp only [h] <;> rfl

theorem allRan_of_ok {net : Net Op} {world : World} (h : (net.run world).outcome = .ok ()) :
    AllRan net.operators world := by
  rcases allRan_or_firstFailure net.operators world with hran | ⟨p, cause, hp⟩
  · exact hran
  · rw [(run_of_failed hp).1] at h
    cases h

/-- What a run of the net does and what is told of it, turn by turn. -/
structure RunInTurns (net : Net Op) (world : World) : Prop where
  decided : AllRan net.operators world ∨ ∃ p cause, FirstFailure net.operators world p cause
  /-- If all run, the observers hear of the start, every operator has its turn, and the observers hear
  of the stop. -/
  ran : AllRan net.operators world →
    (net.run world).outcome = .ok () ∧
    calls (net.run world).events =
      net.observers.started ++ net.turns net.operators.length ++ net.observers.stopped ∧
    (net.run world).net.operators = List.ofFn (afterTurn net.operators world) ∧
    (net.run world).world = worldAt net.operators world net.operators.length
  /-- If one fails, its turn is the last thing that happens: the operators behind it stay as they are,
  the world is left as the one that failed has left it, and no observer hears of a stop. -/
  failed : ∀ p cause, FirstFailure net.operators world p cause →
    (net.run world).outcome =
      .error (.operatorFailed p (net.operators.get p).spec.name (net.operators.get p).spec.opType cause) ∧
    calls (net.run world).events = net.observers.started ++ net.turns (p + 1) ∧
    (net.run world).net.operators =
      List.ofFn (fun i => if i ≤ p then afterTurn net.operators world i else net.operators.get i) ∧
    (net.run world).world = (turn net.operators world p).world
  opened : (net.run world).net.profiler.opened = net.profiler.opened

/-- **A run shows exactly its turns**, between the start and the stop that the observers hear of, and
leaves no range open. -/
theorem run_in_turns (net : Net Op) (world : World) : net.RunInTurns world where
  decided := allRan_or_firstFailure net.operators world
  ran h := by
    have hpass : pass 0 net.operators world = _ := pass_of_ran h
    have hok : (net.run world).outcome = .ok () := by
      rw [net.run_outcome, hpass]
      rfl
    refine ⟨hok, ?_, ?_, ?_⟩
    · rw [net.run_calls, hok, (runOperators_of_ran h).1, turns, List.take_length]
      rfl
    · rw [net.run_operators, hpass]
    · rw [net.run_world, hpass]
  failed p cause h := by
    have hpass : pass 0 net.operators world = _ := pass_of_failed h
    have herror : (net.run world).outcome =
        .error (.operatorFailed p (net.operators.get p).spec.name (net.operators.get p).spec.opType cause) := by
      rw [net.run_outcome, hpass, Nat.zero_add]
      rfl
    refine ⟨herror, ?_, ?_, ?_⟩
    · rw [net.run_calls, herror, (runOperators_of_failed h).1, turns]
      exact List.append_nil _
    · rw [net.run_operators, hpass]
    · rw [net.run_world, hpass]
  opened := by
    rw [net.run_profiler]
    rcases allRan_or_firstFailure net.operators world with h | ⟨p, cause, h⟩
    · rw [(runOperators_of_ran h).2, RunSetting.opened_afterTurns]
    · rw [(runOperators_of_failed h).2, RunSetting.opened_afterTurns]

-- The second of three operators fails inside its range, while a range around the run is open.
example :
    let cause : Failure := .refused "no room"
    let step : Operator Bool Nat :=
      ⟨fun ok n => ⟨ok, n + 1, if ok then none else some cause⟩, fun _ n => n, fun _ n => ([], n)⟩
    let work (ok : Bool) : NetOperator Bool := ⟨.copy { opType := "Work", name := toString ok }, ok⟩
    let outer : ProfilerRange := ⟨7, "outer", .wait⟩
    let net : Net Bool :=
      { name := "net", operators := [work true, work false, work true], observers := ⟨["watch"]⟩,
        config := ⟨true⟩, profiler := .spans 8 [outer] }
    let point (position : Nat) (ok : Bool) : TracePoint := ⟨"net", toString ok, "Work", position⟩
    let range (id : Nat) : ProfilerRange := ⟨id, "Work", .run⟩
    calls (@run Bool Nat step net 0).events =
      [.observerStart "watch",
        .operatorStart (point 0 true), .rangeStart (range 8), .operatorRun 0, .rangeEnd 8 (some (range 8)),
        .operatorDone (point 0 true),
        .operatorStart (point 1 false), .rangeStart (range 9), .operatorRun 1, .rangeEnd 9 (some (range 9)),
        .operatorDone (point 1 false)] := rfl

end Net

end Dataflow
