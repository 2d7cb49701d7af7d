/-
Shapes and values never drift apart. Over any history in which tensors are fed
into a workspace and nets of reference operators are built, run and benchmarked
on it, every tensor that is ever stored holds as many values as its shape has
elements, also in the middle of runs and when they fail
(`values_fit_shapes`).

The middle of a run is told by its events: the calls told so far, made once
more, lead to the workspace of that moment.
-/
import Dataflow.Proofs.Benchmark.Replay
import Dataflow.Proofs.Benchmark.Work
import Dataflow.Proofs.Net.Construction
import Dataflow.Proofs.Net.Turns
import Dataflow.Proofs.Tensor.Bounds
import Dataflow.Proofs.Tensor.Sources

namespace Dataflow

/-- The reason why an operator has failed or could not be made, if that is where the error comes from. -/
def NetError.cause? : NetError → Option Failure
  | .operatorCreation _ _ cause | .operatorFailed _ _ _ cause => some cause
  | .warmupFailed _ source | .mainRunFailed _ source => source.cause?
  | .invalidRunCount .. | .unknownNetType _ => none

namespace Kernel

/-- Among shapes there is no weight with a wrong number of values. -/
theorem fullyConnectedShape_ne_weightSize (x w b shape : Shape) (count : Nat) :
    fullyConnectedShape x w b ≠ .error (.weightSize shape count) := by
  unfold fullyConnectedShape
  split
  · simp only
    repeat' split
    all_goals exact fun h => nomatch h
  · exact fun h => nomatch h

theorem two_pow_le_of_elementCount {x w b shape : Shape} {count : Nat}
    (h : fullyConnectedShape x w b = .error (.elementCount shape count)) : 2 ^ 64 ≤ x.numel := by
  unfold fullyConnectedShape at h
  split at h
  next rowCount width _ =>
    simp only at h
    split at h
    · cases h
    split at h
    · cases h
    split at h
    · cases h
    next hcount =>
      by_contra hsmall
      have hrows : x.numel / width.toNat < 2 ^ 64 :=
        Nat.lt_of_le_of_lt (Nat.div_le_self ..) (Nat.lt_of_not_le hsmall)
      refine hcount ?_
      change (UInt64.ofNat (x.numel / width.toNat)).toNat * (rowCount.toNat * 1) = _
      rw [UInt64.toNat_ofNat_of_lt' hrows, Nat.mul_one]
  next => cases h

end Kernel

namespace Reference

/-! ## Operators -/

namespace RefOperator

/-- The input of a fully connected layer has more elements than a word can count. -/
def Overflows (op : RefOperator) (ws : Workspace) : Prop :=
  ∃ input weight bias output x, op = .fullyConnected input weight bias output ∧ ws.get? input = some x ∧
    2 ^ 64 ≤ x.shape.numel

/-- What it means that the values an operator finds in a workspace fit their shapes. -/
structure FindsFitting (op : RefOperator) (ws : Workspace) : Prop where
  weight : ∀ shape count, op.compute ws ≠ .error (.weightSize shape count)
  /-- When every access to the values is checked, none is out of range. -/
  inRange : ∀ input weight bias output x w b, op = .fullyConnected input weight bias output →
    ws.get? input = some x → ws.get? weight = some w → ws.get? bias = some b →
    Kernel.fullyConnected? x w b = some (op.compute ws)
  result : ∀ shape count, op.compute ws = .error (.elementCount shape count) → op.Overflows ws

theorem fetch_eq_error {ws : Workspace} {name : String} {e : Failure} (h : ws.fetch name = .error e) :
    e = .noTensor name := by
  unfold Workspace.fetch at h
  cases ht : ws.get? name with
  | none => rw [ht] at h; cases h; rfl
  | some t => rw [ht] at h; cases h

theorem fetch_eq_ok {ws : Workspace} {name : String} {t : Tensor} : ws.fetch name = .ok t ↔ ws.get? name = some t := by
  unfold Workspace.fetch
  cases ws.get? name <;> simp

/-- Why an operator fails: a tensor is missing, or those that are there do not go together. -/
theorem compute_eq_error {ws : Workspace} {op : RefOperator} {e : Failure} (h : op.compute ws = .error e) :
    (∃ name, e = .noTensor name) ∨
      (∃ input weight bias output x w b, op = .fullyConnected input weight bias output ∧
        ws.get? input = some x ∧ ws.get? weight = some w ∧ ws.get? bias = some b ∧
        Kernel.fullyConnected x w b = .error e) ∨
      ∃ left right output l r, op = .add left right output ∧ ws.get? left = some l ∧ ws.get? right = some r ∧
        Kernel.add l r = .error e := by
  cases op with
  | fullyConnected input weight bias output =>
    simp only [compute] at h
    cases hx : ws.fetch input with
    | error e' => rw [hx] at h; cases h; exact .inl ⟨input, fetch_eq_error hx⟩
    | ok x =>
      cases hw : ws.fetch weight with
      | error e' => rw [hx, hw] at h; cases h; exact .inl ⟨weight, fetch_eq_error hw⟩
      | ok w =>
        cases hb : ws.fetch bias with
        | error e' => rw [hx, hw, hb] at h; cases h; exact .inl ⟨bias, fetch_eq_error hb⟩
        | ok b =>
          rw [hx, hw, hb] at h
          exact .inr (.inl ⟨input, weight, bias, output, x, w, b, rfl, fetch_eq_ok.mp hx, fetch_eq_ok.mp hw,
            fetch_eq_ok.mp hb, h⟩)
  | relu input output =>
    simp only [compute] at h
    cases hx : ws.fetch input with
    | error e' => rw [hx] at h; cases h; exact .inl ⟨input, fetch_eq_error hx⟩
    | ok x => rw [hx] at h; cases h
  | add left right output =>
    simp only [compute] at h
    cases hl : ws.fetch left with
    | error e' => rw [hl] at h; cases h; exact .inl ⟨left, fetch_eq_error hl⟩
    | ok l =>
      cases hr : ws.fetch right with
      | error e' => rw [hl, hr] at h; cases h; exact .inl ⟨right, fetch_eq_error hr⟩
      | ok r =>
        rw [hl, hr] at h
        exact .inr (.inr ⟨left, right, output, l, r, rfl, fetch_eq_ok.mp hl, fetch_eq_ok.mp hr, h⟩)
  | copy input output => exact .inl ⟨input, fetch_eq_error h⟩

/-- In a consistent workspace it is the shapes that do not go together. -/
theorem shapes_eq_error {ws : Workspace} (hws : ws.Consistent) {op : RefOperator} {e : Failure}
    (h : op.compute ws = .error e) :
    (∃ name, e = .noTensor name) ∨
      (∃ input weight bias output x, op = .fullyConnected input weight bias output ∧ ws.get? input = some x ∧
        ∃ w b, Kernel.fullyConnectedShape x.shape w b = .error e) ∨
      ∃ left right : Shape, e = .unequalSizes left right := by
  rcases compute_eq_error h with hname | ⟨input, weight, bias, output, x, w, b, hop, hx, hw, hb, he⟩ |
    ⟨left, right, output, l, r, -, hl, hr, he⟩
  · exact .inl hname
  · have hshape := Kernel.fullyConnected_shape (hws _ x hx) (hws _ w hw) (hws _ b hb)
    rw [he] at hshape
    exact .inr (.inl ⟨input, weight, bias, output, x, hop, hx, w.shape, b.shape, hshape.symm⟩)
  · have hshape := Kernel.add_shape (hws _ l hl) (hws _ r hr)
    rw [he, Kernel.addShape] at hshape
    split at hshape
    · cases hshape
    · cases hshape
      exact .inr (.inr ⟨l.shape, r.shape, rfl⟩)

/-- **In a consistent workspace all values that an operator finds fit their shapes.** -/
theorem findsFitting {ws : Workspace} (hws : ws.Consistent) (op : RefOperator) : op.FindsFitting ws where
  weight shape count h := by
    rcases shapes_eq_error hws h with ⟨name, hname⟩ | ⟨_, _, _, _, x, -, -, w, b, hshape⟩ | ⟨left, right, hunequal⟩
    · cases hname
    · exact Kernel.fullyConnectedShape_ne_weightSize _ _ _ _ _ hshape
    · cases hunequal
  inRange input weight bias output x w b hop hx hw hb := by
    rw [Kernel.fullyConnected?_eq, hop, compute, fetch_eq_ok.mpr hx, fetch_eq_ok.mpr hw, fetch_eq_ok.mpr hb]
    rfl
  result shape count h := by
    rcases shapes_eq_error hws h with ⟨name, hname⟩ | ⟨input, weight, bias, output, x, hop, hx, w, b, hshape⟩ |
      ⟨left, right, hunequal⟩
    · cases hname
    · exact ⟨input, weight, bias, output, x, hop, hx, Kernel.two_pow_le_of_elementCount hshape⟩
    · cases hunequal

end RefOperator

/-! ## The middle of a use -/

theorem redo_consistent {s : List (NetOperator RefOperator) × Workspace} (h : s.2.Consistent) (e : Event) :
    (e.redo s).2.Consistent := by
  cases e with
  | operatorRun i =>
    simp only [Event.redo]
    split
    · exact run_consistent h _
    · exact h
  | operatorReset i =>
    simp only [Event.redo]
    split <;> exact h
  | shapesAsked i =>
    simp only [Event.redo]
    split <;> exact h
  | _ => exact h

/-- **Whatever calls of operators have been made, the workspace is consistent behind them.** -/
theorem replay_consistent {s : List (NetOperator RefOperator) × Workspace} (h : s.2.Consistent)
    (events : List Event) : (replay events s).2.Consistent := by
  induction events generalizing s with
  | nil => exact h
  | cons e rest ih => exact ih (redo_consistent h e)

theorem replay_of_no_operators (ws : Workspace) (events : List Event) :
    replay events (([] : List (NetOperator RefOperator)), ws) = ([], ws) := by
  induction events with
  | nil => rfl
  | cons e rest ih =>
    have hkept : e.redo (([] : List (NetOperator RefOperator)), ws) = ([], ws) := by cases e <;> rfl
    exact (congrArg (replay rest) hkept).trans ih

/-- What is done with a workspace. The net may be any net of reference operators, one that was built
before as well as any other. -/
inductive Use
  | feed (name : String) (t : Tensor) (source : t.Obtained)
  | build (spec : NetSpec)
  | run (net : Net RefOperator)
  | benchmark (net : Net RefOperator) (setting : BenchmarkSetting)

namespace Use

def after (ws : Workspace) : Use → Workspace
  | feed name t _ => ws.feed name t
  | build spec => (Net.build spec factory ws).state
  | run net => (net.run ws).world
  | benchmark net setting => (net.benchmarkReport ws setting).world

def events (ws : Workspace) : Use → List Event
  | feed .. => []
  | build spec => (Net.build spec factory ws).events
  | run net => (net.run ws).events
  | benchmark net setting => (net.benchmarkReport ws setting).events

def operators : Use → List (NetOperator RefOperator)
  | feed .. | build _ => []
  | run net | benchmark net _ => net.operators

/-- The workspace in the middle of a use, when so many of its events have happened. -/
def during (ws : Workspace) (count : Nat) (use : Use) : Workspace :=
  (replay ((use.events ws).take count) (use.operators, ws)).2

/-- The error that a use returns, but for the building of a net. -/
def error? (ws : Workspace) : Use → Option NetError
  | feed .. | build _ => none
  | run net =>
    match (net.run ws).outcome with
    | .ok _ => none
    | .error e => some e
  | benchmark net setting =>
    match (net.benchmarkReport ws setting).outcome with
    | .ok _ => none
    | .error e => some e

theorem during_consistent {ws : Workspace} (h : ws.Consistent) (count : Nat) (use : Use) :
    (use.during ws count).Consistent := replay_consistent h _

/-- All events together lead to the workspace behind a use in which the operators act. -/
theorem during_all (ws : Workspace) {use : Use} (h : ∀ name t source, use ≠ .feed name t source) :
    use.during ws (use.events ws).length = use.after ws := by
  rw [during, List.take_length]
  cases use with
  | feed name t source => exact absurd rfl (h name t source)
  | build spec => rw [after, build_state, operators, replay_of_no_operators]
  | run net => exact congrArg Prod.snd (net.run_replay ws)
  | benchmark net setting => exact congrArg Prod.snd (net.benchmarkReport_replay ws setting)

theorem after_consistent {ws : Workspace} (h : ws.Consistent) (use : Use) : (use.after ws).Consistent := by
  have hall (hfed : ∀ name t source, use ≠ .feed name t source) : (use.after ws).Consistent :=
    during_all ws hfed ▸ during_consistent h _ use
  cases use with
  | feed name t source => exact h.feed name source.consistent
  | build spec | run net | benchmark net setting => exact hall fun _ _ _ heq => nomatch heq

end Use

/-! ## The errors of a use -/

theorem cause?_errorOf (s : BenchmarkSetting) (t : Nat) (e : NetError) : (s.errorOf t e).cause? = e.cause? := by
  unfold BenchmarkSetting.errorOf
  split
  · rfl
  · split <;> rfl

/-- An operator fails for a reason in a consistent workspace. -/
def FailsFor (cause : Failure) : Prop :=
  ∃ (op : RefOperator) (ws : Workspace), ws.Consistent ∧ op.compute ws = .error cause

theorem worldAt_consistent {ws : Workspace} (h : ws.Consistent) (ops : List (NetOperator RefOperator))
    (position : Nat) : (worldAt ops ws position).Consistent := by
  unfold worldAt
  induction ops.take position generalizing ws with
  | nil => exact h
  | cons o rest ih => exact ih (run_consistent h o.op)

theorem compute_of_refused {op : RefOperator} {ws : Workspace} {cause : Failure}
    (h : (Operator.run op ws).failure = some cause) : op.compute ws = .error cause := by
  simp only [Operator.run, RefOperator.run] at h
  cases hc : op.compute ws with
  | error e => rw [hc] at h; cases h; rfl
  | ok t => rw [hc] at h; cases h

theorem run_cause {net : Net RefOperator} {ws : Workspace} (hws : ws.Consistent) {e : NetError}
    (he : (net.run ws).outcome = .error e) {cause : Failure} (hcause : e.cause? = some cause) : FailsFor cause := by
  rcases allRan_or_firstFailure net.operators ws with hran | ⟨p, reason, hp⟩
  · rw [(Net.run_of_ran hran).1] at he
    cases he
  · rw [(Net.run_of_failed hp).1] at he
    cases he
    cases hcause
    exact ⟨_, _, worldAt_consistent hws net.operators p, compute_of_refused hp.here⟩

theorem benchmark_cause {net : Net RefOperator} {ws : Workspace} (hws : ws.Consistent) {s : BenchmarkSetting}
    {e : NetError} (he : (net.benchmarkReport ws s).outcome = .error e) {cause : Failure}
    (hcause : e.cause? = some cause) : FailsFor cause := by
  have hruns := Reference.unnoticed.benchmarkIsRuns net ws s
  by_cases hneg : s.warmupRuns < 0 ∨ s.mainRuns < 0
  · rw [(hruns.refused hneg).1] at he
    cases he
    split at hcause <;> cases hcause
  · obtain ⟨hw, hm⟩ := not_or.mp hneg
    have hw := Int.not_lt.mp hw
    have hm := Int.not_lt.mp hm
    rcases net.calls_cases ws s.runs with hok | ⟨t, ht, hbefore, reason, hfailed⟩
    · obtain ⟨report, hreport⟩ := (hruns.succeeds hw hm).mpr hok
      rw [hreport] at he
      cases he
    · obtain ⟨-, -, herror, -⟩ := hruns.failed hw hm t ht hbefore reason hfailed
      rw [herror] at he
      cases he
      rw [cause?_errorOf] at hcause
      exact run_cause (afterCalls_kept net hws t).2 hfailed hcause

theorem Use.error?_cause {ws : Workspace} (hws : ws.Consistent) {use : Use} {e : NetError}
    (he : use.error? ws = some e) {cause : Failure} (hcause : e.cause? = some cause) : FailsFor cause := by
  cases use with
  | feed name t source => cases he
  | build spec => cases he
  | run net =>
    simp only [error?] at he
    cases ho : (net.run ws).outcome with
    | ok _ => rw [ho] at he; cases he
    | error e' => rw [ho] at he; cases he; exact run_cause hws ho hcause
  | benchmark net s =>
    simp only [error?] at he
    cases ho : (net.benchmarkReport ws s).outcome with
    | ok _ => rw [ho] at he; cases he
    | error e' => rw [ho] at he; cases he; exact benchmark_cause hws ho hcause

/-! ## Histories -/

def workspaceAfter (uses : List Use) : Workspace := uses.foldl Use.after .empty

theorem workspaceAfter_consistent (uses : List Use) : (workspaceAfter uses).Consistent := by
  have hfrom (ws : Workspace) (h : ws.Consistent) : (uses.foldl Use.after ws).Consistent := by
    induction uses generalizing ws with
    | nil => exact h
    | cons use rest ih => exact ih _ (use.after_consistent h)
  exact hfrom .empty Workspace.consistent_empty

/-- What it means that values fit their shapes over a history. -/
structure ValuesFit (uses : List Use) : Prop where
  /-- In the middle of every use, every tensor in the workspace holds as many values as its shape has
  elements. -/
  stored : ∀ before use behind, uses = before ++ use :: behind → ∀ count name t,
    (use.during (workspaceAfter before) count).get? name = some t → t.data.length = t.shape.numel
  left : ∀ name t, (workspaceAfter uses).get? name = some t → t.data.length = t.shape.numel
  complete : ∀ before use behind, uses = before ++ use :: behind →
    (∀ name t source, use ≠ .feed name t source) →
    use.during (workspaceAfter before) (use.events (workspaceAfter before)).length = use.after (workspaceAfter before)
  found : ∀ before use behind, uses = before ++ use :: behind → ∀ count (op : RefOperator),
    op.FindsFitting (use.during (workspaceAfter before) count)
  reported : ∀ before use behind, uses = before ++ use :: behind → ∀ e, use.error? (workspaceAfter before) = some e →
    ∀ shape count, e.cause? ≠ some (.weightSize shape count)

/-- **Values fit their shapes over every history.** -/
theorem values_fit_shapes (uses : List Use) : ValuesFit uses where
  stored before use behind _ count name t ht :=
    use.during_consistent (workspaceAfter_consistent before) count name t ht
  left := workspaceAfter_consistent uses
  complete before use behind _ hfed := use.during_all (workspaceAfter before) hfed
  found before use behind _ count op :=
    op.findsFitting (use.during_consistent (workspaceAfter_consistent before) count)
  reported before use behind _ e he shape count hcause := by
    obtain ⟨op, ws, hws, hfails⟩ := use.error?_cause (workspaceAfter_consistent before) he hcause
    exact (op.findsFitting hws).weight shape count hfails

-- The second operator fails; in the middle of the run the first one has stored its output.
example :
    let net := netOf "net" [.relu "x" "y", .add "x" "z" "z"]
    let x : Tensor := ⟨⟨[2]⟩, [-1, 2]⟩
    let ws := workspaceAfter [.feed "x" x (.made x.shape x.data rfl)]
    (net.run ws).outcome = .error (.operatorFailed 1 "" "Add" (.noTensor "z")) ∧
      ((Use.run net).during ws 4).shape? "y" = some ⟨[2]⟩ := ⟨rfl, rfl⟩

end Reference

end Dataflow
