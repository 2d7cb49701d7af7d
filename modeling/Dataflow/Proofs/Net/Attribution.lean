/-
Where the events of a run lie, seen from the ranges of its operators. An
operator is announced before its range opens, and is done only when its range
is closed. So the open ranges at both of its events are those that were open
before the run, and its own range has nothing but its work in it.
-/
import Dataflow.Operator.Scripted
import Dataflow.Proofs.Net.Events
import Dataflow.Proofs.Trace.Ranges

namespace Dataflow

variable {Op World : Type} [Operator Op World]

/-! ## Facts about every event of a list -/

/-- Something holds of every event, seen together with the events before it. -/
def AtEach (P : List Event → Event → Prop) : List Event → List Event → Prop
  | _, [] => True
  | past, event :: later => P past event ∧ AtEach P (past ++ [event]) later

section

variable {P : List Event → Event → Prop} {past events later : List Event}

theorem AtEach.append (h : AtEach P past events) (hlater : AtEach P (past ++ events) later) :
    AtEach P past (events ++ later) := by
  induction events generalizing past with
  | nil => simpa using hlater
  | cons event events ih => exact ⟨h.1, ih h.2 (by simpa using hlater)⟩

theorem AtEach.of_forall (h : ∀ past, ∀ event ∈ events, P past event) : AtEach P past events := by
  induction events generalizing past with
  | nil => trivial
  | cons event events ih =>
    exact ⟨h past event List.mem_cons_self, ih fun past event hevent => h past event (.tail _ hevent)⟩

theorem AtEach.split {before behind : List Event} {event : Event} (h : AtEach P past (before ++ event :: behind)) :
    P (past ++ before) event := by
  induction before generalizing past with
  | nil => simpa using h.1
  | cons first before ih => simpa using ih h.2

end

/-! ## Between turns -/

namespace Profiler

variable {p : Profiler} {count : Nat} {past : List Event}

theorem Path.others {events : List Event} (h : ∀ event ∈ events, event.isRange = false) : Path p events p := by
  induction events with
  | nil => exact .nil p
  | cons event events ih =>
    exact .cons (.other (h event List.mem_cons_self)) (ih fun event hevent => h event (.tail _ hevent))

theorem openRanges_others {events : List Event} (h : ∀ event ∈ events, event.isRange = false) :
    openRanges events = [] := by
  induction events with
  | nil => rfl
  | cons event events ih =>
    rw [openRanges_other (h event List.mem_cons_self)]
    exact ih fun event hevent => h event (.tail _ hevent)

def inRange (p : Profiler) (count : Nat) (label : String) : Profiler :=
  ((p.afterRanges count).startRange label .run).2

theorem step_open (p : Profiler) (count : Nat) (label : String) :
    Step (p.afterRanges count) (.rangeStart (p.rangeAt count label)) (p.inRange count label) := .start ..

theorem step_close (p : Profiler) (count : Nat) (label : String) :
    Step (p.inRange count label) (.rangeEnd (p.rangeAt count label).id (p.closedBy (p.rangeAt count label)))
      (p.afterRanges (count + 1)) := by
  have hend := (p.afterRanges count).endRange_startRange label .run
  have hstep := Step.finish (p.inRange count label) (p.rangeAt count label).id
  rw [inRange, rangeAt, hend, afterRanges_add, closedBy, isSpans_afterRanges] at hstep
  exact hstep

theorem opened_inRange (h : p.isSpans) (count : Nat) (label : String) :
    (p.inRange count label).opened = p.opened ++ [p.rangeAt count label] := by
  have hspans : (p.afterRanges count).isSpans := by rwa [isSpans_afterRanges]
  rw [inRange, opened_startRange hspans, opened_afterRanges, ← rangeAt]

/-- All ranges that a run has started so far have been ended, one after the other. -/
structure Settled (p : Profiler) (count : Nat) (past : List Event) : Prop where
  path : p.Path past (p.afterRanges count)
  none_open : openRanges past = []

theorem Settled.init (p : Profiler) : Settled p 0 [] where
  path := by simpa using .nil p
  none_open := rfl

theorem Settled.others (h : Settled p count past) {events : List Event}
    (hevents : ∀ event ∈ events, event.isRange = false) : Settled p count (past ++ events) where
  path := h.path.append (.others hevents)
  none_open := by
    rw [openRanges_append, h.none_open, openRanges_others hevents]
    rfl

end Profiler

namespace Net

def ownRange (net : Net Op) (position : Nat) (o : NetOperator Op) : ProfilerRange :=
  net.profiler.rangeAt position o.spec.opType

/-- What is open when an event of a run happens. At both events of an operator it is what was open before the
run; while the operator works, its own range is open besides. -/
def Attributed (net : Net Op) (before : List Event) : Event → Prop
  | .operatorStart _ | .operatorDone _ =>
    openRanges before = [] ∧ ∃ p, net.profiler.Path before p ∧ p.opened = net.profiler.opened
  | .operatorRun position => ∃ o, net.operators[position]? = some o ∧
    openRanges before = [net.ownRange position o] ∧ ∃ p, net.profiler.Path before p ∧
      (net.profiler.isSpans → p.opened = net.profiler.opened ++ [net.ownRange position o])
  | _ => True

end Net

/-! ## Turns -/

theorem RunSetting.turnEvents_afterRanges (setting : RunSetting) (p : Profiler) (count more position : Nat)
    (o : NetOperator Op) :
    setting.turnEvents (p.afterRanges count) more position o = setting.turnEvents p (count + more) position o := by
  simp only [turnEvents, Profiler.rangeAt_afterRanges, Profiler.closedBy, Profiler.isSpans_afterRanges]

/-- The entries of the log in front of the turn of an operator and, when it fails, behind it. -/
theorem runOperators_cons_events (setting : RunSetting) (position : Nat) (o : NetOperator Op)
    (rest : List (NetOperator Op)) (world : World) (p : Profiler) :
    let ran := Operator.run o.op world
    let later := runOperators setting (position + 1) rest ran.world (setting.afterTurns p 1)
    ∃ announced failed : LogEntry, (runOperators setting position (o :: rest) world p).events =
      .log announced :: setting.turnEvents p 0 position o ++
        (match ran.failure with
        | some _ => [.log failed]
        | none => later.events) := by
  obtain ⟨hran, hprofiler, hevents⟩ := runInRange_eq setting position o world p
  refine ⟨⟨.debug, LogTarget.net, s!"Running operator {o.spec.name}({o.spec.opType}).", []⟩,
    ⟨.error, LogTarget.net, "Operator failed: " ++ o.spec.debugString, []⟩, ?_⟩
  rw [hevents]
  simp only [runOperators, hran, hprofiler]
  cases (Operator.run o.op world).failure with
  | some cause => rfl
  | none => rfl

variable {net : Net Op} {setting : RunSetting} {position : Nat} {o : NetOperator Op} {past : List Event}

theorem RunSetting.turnEvents_of_ranges (hranges : setting.ranges = true) (p : Profiler) (count position : Nat)
    (o : NetOperator Op) :
    let point := o.point setting.netName position
    let own := p.rangeAt count o.spec.opType
    setting.turnEvents p count position o =
      [.operatorStart point, .rangeStart own] ++ [.operatorRun position, .rangeEnd own.id (p.closedBy own)] ++
        [.operatorDone point] := by
  simp only [turnEvents, hranges, if_true]
  rfl

/-- What is open in the turn of an operator, and that nothing of it is open afterwards. -/
theorem Net.turn_attributed (hranges : setting.ranges = true) (ho : net.operators[position]? = some o)
    (h : net.profiler.Settled position past) :
    AtEach net.Attributed past (setting.turnEvents net.profiler position position o) ∧
      net.profiler.Settled (position + 1) (past ++ setting.turnEvents net.profiler position position o) := by
  -- The turn is cut behind the start of the range and behind its end.
  let point := o.point setting.netName position
  let own := net.ownRange position o
  let opening : List Event := [.operatorStart point, .rangeStart own]
  let closing : List Event := [.operatorRun position, .rangeEnd own.id (net.profiler.closedBy own)]
  have hwork : net.profiler.Path (past ++ opening) (net.profiler.inRange position o.spec.opType) :=
    h.path.append (.cons (.other rfl) (net.profiler.step_open position o.spec.opType).path)
  have hdone : net.profiler.Path (past ++ opening ++ closing) (net.profiler.afterRanges (position + 1)) :=
    hwork.append (.cons (.other rfl) (net.profiler.step_close position o.spec.opType).path)
  have hown : openRanges (past ++ opening) = [own] := by
    rw [openRanges_append, h.none_open]
    rfl
  have hnone : openRanges (past ++ opening ++ closing) = [] := by
    rw [openRanges_append, hown]
    simp [closing, openRanges, keptOpen, Event.ends]
  have hsettled : net.profiler.Settled (position + 1) (past ++ opening ++ closing) := ⟨hdone, hnone⟩
  rw [RunSetting.turnEvents_of_ranges hranges]
  refine ⟨.append (.append ⟨?_, trivial, trivial⟩ ⟨?_, trivial, trivial⟩) ⟨?_, trivial⟩, ?_⟩
  · exact ⟨h.none_open, _, h.path, net.profiler.opened_afterRanges position⟩
  · exact ⟨o, ho, hown, _, hwork, fun hspans => Profiler.opened_inRange hspans ..⟩
  · rw [← List.append_assoc]
    exact ⟨hnone, _, hdone, net.profiler.opened_afterRanges (position + 1)⟩
  · rw [← List.append_assoc, ← List.append_assoc]
    exact hsettled.others (by simp [Event.isRange])

/-! ## Passes -/

variable {ops : List (NetOperator Op)} {world : World}

theorem Net.runOperators_attributed (hranges : setting.ranges = true)
    (hops : ∀ i, ops[i]? = net.operators[position + i]?) (world : World) (h : net.profiler.Settled position past) :
    AtEach net.Attributed past
      (runOperators setting position ops world (net.profiler.afterRanges position)).events := by
  induction ops generalizing position world past with
  | nil => trivial
  | cons o rest ih =>
    obtain ⟨announced, failed, hevents⟩ :=
      runOperators_cons_events setting position o rest world (net.profiler.afterRanges position)
    have hlogged : net.profiler.Settled position (past ++ [.log announced]) := h.others (by simp [Event.isRange])
    obtain ⟨hturn, hsettled⟩ := turn_attributed hranges (hops 0).symm hlogged
    rw [hevents, RunSetting.turnEvents_afterRanges, Nat.add_zero]
    refine ⟨trivial, hturn.append ?_⟩
    cases (Operator.run o.op world).failure with
    | some cause => exact ⟨trivial, trivial⟩
    | none =>
      have hbehind : setting.afterTurns (net.profiler.afterRanges position) 1 =
          net.profiler.afterRanges (position + 1) := by
        rw [RunSetting.afterTurns, if_pos hranges, Profiler.afterRanges_add]
      rw [hbehind]
      refine ih (fun i => ?_) _ hsettled
      rw [← List.getElem?_cons_succ, hops, Nat.add_right_comm, Nat.add_assoc]

/-- The turn of an operator stands in the events of a pass, when no operator before it fails. -/
theorem runOperators_turn (setting : RunSetting) (position : Nat) (p : Profiler) {i : Fin ops.length}
    (hran : ∀ j < i, (turn ops world j).failure = none) :
    ∃ before behind, (runOperators setting position ops world p).events =
      before ++ setting.turnEvents p i (position + i) (ops.get i) ++ behind := by
  induction ops generalizing position world p with
  | nil => exact i.elim0
  | cons o rest ih =>
    obtain ⟨announced, failed, hevents⟩ := runOperators_cons_events setting position o rest world p
    rw [hevents]
    induction i using Fin.cases with
    | zero => exact ⟨[.log announced], _, rfl⟩
    | succ i =>
      have ho : (Operator.run o.op world).failure = none := hran 0 (Fin.succ_pos i)
      have hrest : ∀ j < i, (turn rest (Operator.run o.op world).world j).failure = none :=
        fun j hj => hran j.succ (Fin.succ_lt_succ_iff.mpr hj)
      obtain ⟨before, behind, hlater⟩ := ih (position + 1) (setting.afterTurns p 1) hrest
      have hposition : position + 1 + (i : Nat) = position + (i.succ : Nat) := by
        rw [Fin.val_succ]; omega
      rw [RunSetting.turnEvents_afterTurns, hposition] at hlater
      refine ⟨.log announced :: setting.turnEvents p 0 position o ++ before, behind, ?_⟩
      simp only [ho, hlater, List.append_assoc]
      rfl

/-! ## Runs -/

namespace Net

theorem run_events (net : Net Op) (world : World) : ∃ announced : LogEntry, (net.run world).events =
    net.observers.started ++ .log announced ::
      (runOperators net.setting 0 net.operators world net.profiler).events ++
        if (net.run world).outcome.isOk then net.observers.stopped else [] := by
  refine ⟨⟨.debug, LogTarget.net, s!"Running net {net.name}", []⟩, ?_⟩
  unfold run
  cases h : (runOperators net.setting 0 net.operators world net.profiler).failure with
  | some e => simp [h, Except.isOk, Except.toBool, Event.logged]
  | none => simp [h, Except.isOk, Except.toBool, Event.logged]

theorem run_attributed (hranges : net.config.profilerRanges = true) (world : World) :
    AtEach net.Attributed [] (net.run world).events := by
  obtain ⟨announced, hevents⟩ := net.run_events world
  have hstarted : net.profiler.Settled 0 net.observers.started := by
    refine (Profiler.Settled.init net.profiler).others fun event hevent => ?_
    obtain ⟨label, -, rfl⟩ := List.mem_map.mp hevent
    rfl
  have hlogged : net.profiler.Settled 0 (net.observers.started ++ [.log announced]) :=
    hstarted.others (by simp [Event.isRange])
  have hranges : net.setting.ranges = true := hranges
  have hpass := runOperators_attributed hranges (fun i => by rw [Nat.zero_add]) world hlogged
  rw [Profiler.afterRanges_zero] at hpass
  rw [hevents, List.append_cons, List.append_assoc, List.append_assoc]
  refine AtEach.append (.of_forall fun past event hevent => ?_) (.append ⟨trivial, trivial⟩ (hpass.append ?_))
  · obtain ⟨label, -, rfl⟩ := List.mem_map.mp hevent
    trivial
  · split
    · refine .of_forall fun past event hevent => ?_
      obtain ⟨label, -, rfl⟩ := List.mem_map.mp hevent
      trivial
    · trivial

theorem ownRange_fresh {past : List Event} (h : Profiler.newSpans.Path past net.profiler) (position : Nat)
    (o : NetOperator Op) : net.ownRange position o ∉ net.profiler.opened := by
  obtain ⟨hstate, hnumbered⟩ := h.of_new
  intro hopen
  rw [hstate] at hopen
  have hbelow := hnumbered.below _ hopen
  rw [ownRange, hstate] at hbelow
  exact absurd hbelow (Nat.not_lt.mpr (Nat.le_add_right ..))

/-- Where the ranges of operators lie in a run, seen from their events. -/
structure RangesInsideEvents (net : Net Op) (world : World) : Prop where
  /-- The range of an operator that runs is opened behind the first event of the operator and closed before
  the second one. -/
  turns : ∀ p, net.StopsAt world p → ∀ i : Fin net.operators.length, (i : Nat) ≤ p →
    let point := (net.operators.get i).point net.name i
    let own := net.ownRange i (net.operators.get i)
    ∃ before closed behind, (net.run world).events =
      before ++
        [.operatorStart point, .rangeStart own, .operatorRun i, .rangeEnd own.id closed, .operatorDone point] ++
        behind
  attributed : ∀ before event behind, (net.run world).events = before ++ event :: behind →
    net.Attributed before event
  fresh : ∀ past, Profiler.newSpans.Path past net.profiler →
    ∀ position o, net.ownRange position o ∉ net.profiler.opened

/-- **The range of an operator holds its work and neither of its events.** -/
theorem run_ranges_inside_events (net : Net Op) (world : World) (h : net.config.profilerRanges = true) :
    net.RangesInsideEvents world where
  turns p hp i hi := by
    obtain ⟨announced, hevents⟩ := net.run_events world
    have hran : ∀ j < i, (turn net.operators world j).failure = none :=
      fun j hj => hp.completed.ran j (Nat.lt_of_lt_of_le hj hi)
    obtain ⟨before, behind, hturn⟩ := runOperators_turn net.setting 0 net.profiler hran
    rw [RunSetting.turnEvents_of_ranges h, Nat.zero_add] at hturn
    let own := net.ownRange i (net.operators.get i)
    refine ⟨net.observers.started ++ .log announced :: before, net.profiler.closedBy own,
      behind ++ if (net.run world).outcome.isOk then net.observers.stopped else [], ?_⟩
    rw [hevents, hturn]
    simp only [List.append_assoc, List.cons_append, List.nil_append]
    rfl
  attributed before event behind hsplit := (hsplit ▸ run_attributed h world).split
  fresh past hpast position o := ownRange_fresh hpast position o

def secondFails (profiler : Profiler) : Net Scripted.Actor where
  name := "traced"
  operators := [⟨.copy { opType := "FC", name := "a" }, { name := "a" }⟩,
    ⟨.copy { opType := "Relu", name := "b" }, { name := "b", limit := some 0 }⟩]
  config := ⟨true⟩
  profiler := profiler

def outer : ProfilerRange := ⟨0, "outer", .wait⟩

/-- The operator that fails has its range between its events all the same, and these belong to the range
around the run. -/
theorem run_ranges_inside_events_failed :
    let net := secondFails (.spans 1 [outer])
    let own : ProfilerRange := ⟨2, "Relu", .run⟩
    net.config.profilerRanges = true ∧
      (∃ before closed behind, (net.run {}).events =
        before ++ [.operatorStart ⟨"traced", "b", "Relu", 1⟩, .rangeStart own, .operatorRun 1, .rangeEnd 2 closed,
          .operatorDone ⟨"traced", "b", "Relu", 1⟩] ++ behind) ∧
      ∀ before behind, (net.run {}).events = before ++ .operatorDone ⟨"traced", "b", "Relu", 1⟩ :: behind →
        ∃ p, net.profiler.Path before p ∧ p.opened = [outer] := by
  intro net own
  have hrun := run_ranges_inside_events net {} rfl
  exact ⟨rfl, hrun.turns 1 rfl ⟨1, by decide⟩ (Nat.le_refl 1),
    fun before behind hsplit => (hrun.attributed before _ behind hsplit).2⟩

/-- Both events of every operator are told while its own range is open, and no other of the run. -/
def EventsInsideRanges (net : Net Op) (world : World) : Prop :=
  ∀ before event behind point, (net.run world).events = before ++ event :: behind →
    event = .operatorStart point ∨ event = .operatorDone point →
    ∃ own, own.label = point.opType ∧ openRanges before = [own]

/-- **The events of an operator are not told inside its range**: the first one comes before any range. -/
theorem events_outside_ranges :
    (secondFails .newSpans).config.profilerRanges = true ∧ ¬ (secondFails .newSpans).EventsInsideRanges {} := by
  refine ⟨rfl, fun hinside => ?_⟩
  let logged : List Event := [.logged .debug LogTarget.net "Running net traced",
    .logged .debug LogTarget.net "Running operator a(FC)."]
  obtain ⟨own, -, hown⟩ := hinside logged _ _ ⟨"traced", "a", "FC", 0⟩ rfl (.inl rfl)
  cases hown

end Net

end Dataflow
