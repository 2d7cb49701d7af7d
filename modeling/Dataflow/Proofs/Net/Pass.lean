/-
What a run of a net does to its operators and to their world, without what is
noted on the way: a pass. Every run has the effect of a pass
(`runOperators_effect`, `Net.run_effect`), whatever the ranges and the
profiler, and a pass that fails says which operator failed (`pass_failure`).
-/
import Dataflow.Net.Run

namespace Dataflow

variable {Op World : Type} [Operator Op World]

/-- What running operators leads to, whatever is noted on the way. -/
structure Effect (Op World : Type) where
  operators : List (NetOperator Op)
  world : World
  failure : Option NetError

def Effect.outcome (e : Effect Op World) : Except NetError Unit :=
  match e.failure with
  | some error => .error error
  | none => .ok ()

def Pass.effect (p : Pass Op World) : Effect Op World := ⟨p.operators, p.world, p.failure⟩

/-- What running operators does, the first of them at a position, until one fails. -/
def pass : Nat → List (NetOperator Op) → World → Effect Op World
  | _, [], world => ⟨[], world, none⟩
  | position, o :: rest, world =>
    let ran := Operator.run o.op world
    match ran.failure with
    | some cause => ⟨{ o with op := ran.op } :: rest, ran.world, some (o.failed position cause)⟩
    | none =>
      let later := pass (position + 1) rest ran.world
      ⟨{ o with op := ran.op } :: later.operators, later.world, later.failure⟩

@[simp] theorem pass_nil (position : Nat) (world : World) :
    pass position ([] : List (NetOperator Op)) world = ⟨[], world, none⟩ := rfl

theorem pass_cons_failed {position : Nat} {o : NetOperator Op} {rest : List (NetOperator Op)} {world : World}
    {cause : Failure} (h : (Operator.run o.op world).failure = some cause) :
    pass position (o :: rest) world = ⟨{ o with op := (Operator.run o.op world).op } :: rest,
      (Operator.run o.op world).world, some (o.failed position cause)⟩ := by
  simp only [pass, h]

theorem pass_cons_ran {position : Nat} {o : NetOperator Op} {rest : List (NetOperator Op)} {world : World}
    (h : (Operator.run o.op world).failure = none) :
    pass position (o :: rest) world =
      ⟨{ o with op := (Operator.run o.op world).op } ::
          (pass (position + 1) rest (Operator.run o.op world).world).operators,
        (pass (position + 1) rest (Operator.run o.op world).world).world,
        (pass (position + 1) rest (Operator.run o.op world).world).failure⟩ := by
  simp only [pass, h]

theorem runInRange_ran (ranges : Bool) (position : Nat) (o : NetOperator Op) (world : World) (p : Profiler) :
    (runInRange ranges position o world p).1 = Operator.run o.op world := by
  cases ranges <;> rfl

theorem runOperators_effect (setting : RunSetting) (position : Nat) (ops : List (NetOperator Op)) (world : World)
    (p : Profiler) : (runOperators setting position ops world p).effect = pass position ops world := by
  induction ops generalizing position world p with
  | nil => rfl
  | cons o rest ih =>
    have hran := runInRange_ran setting.ranges position o world p
    cases hf : (Operator.run o.op world).failure with
    | some cause =>
      rw [pass_cons_failed hf]
      simp only [runOperators, hran, hf, Pass.effect]
    | none =>
      have hrest := ih (position + 1) (Operator.run o.op world).world
        (runInRange setting.ranges position o world p).2.1
      rw [pass_cons_ran hf, ← hrest]
      simp only [runOperators, hran, hf, Pass.effect]

/-- A pass that fails does so at one of its operators, whose name and type the error tells. -/
theorem pass_failure {e : NetError} {position : Nat} {ops : List (NetOperator Op)} {world : World}
    (h : (pass position ops world).failure = some e) :
    ∃ i, ∃ hi : i < ops.length, ∃ cause, e = ops[i].failed (position + i) cause := by
  induction ops generalizing position world with
  | nil => simp at h
  | cons o rest ih =>
    cases hf : (Operator.run o.op world).failure with
    | some cause =>
      rw [pass_cons_failed hf] at h
      cases h
      exact ⟨0, by simp, cause, rfl⟩
    | none =>
      rw [pass_cons_ran hf] at h
      obtain ⟨i, hi, cause, he⟩ := ih h
      refine ⟨i + 1, by simpa using hi, cause, ?_⟩
      rw [he]
      simp [Nat.add_assoc, Nat.add_comm 1 i]

theorem pass_origins (position : Nat) (ops : List (NetOperator Op)) (world : World) :
    (pass position ops world).operators.map NetOperator.origin = ops.map NetOperator.origin := by
  induction ops generalizing position world with
  | nil => rfl
  | cons o rest ih =>
    cases hf : (Operator.run o.op world).failure with
    | some cause => rw [pass_cons_failed hf]; rfl
    | none =>
      rw [pass_cons_ran hf]
      exact congrArg (o.origin :: ·) (ih (position + 1) (Operator.run o.op world).world)

def After.effect {α : Type} (a : After Op World α) : Effect Op World where
  operators := a.net.operators
  world := a.world
  failure :=
    match a.outcome with
    | .error e => some e
    | .ok _ => none

omit [Operator Op World] in
theorem After.outcome_eq (a : After Op World Unit) : a.outcome = a.effect.outcome := by
  rcases a with ⟨net, world, events, _ | _⟩ <;> rfl

namespace Net

/-- **A run is a pass over all operators.** -/
theorem run_effect (net : Net Op) (world : World) : (net.run world).effect = pass 0 net.operators world := by
  rw [← runOperators_effect net.setting 0 net.operators world net.profiler]
  simp only [Net.run, Pass.effect]
  cases (runOperators net.setting 0 net.operators world net.profiler).failure <;> rfl

theorem run_operators (net : Net Op) (world : World) :
    (net.run world).net.operators = (pass 0 net.operators world).operators := by
  rw [← net.run_effect world]; rfl

theorem run_world (net : Net Op) (world : World) :
    (net.run world).world = (pass 0 net.operators world).world := by
  rw [← net.run_effect world]; rfl

theorem run_outcome (net : Net Op) (world : World) :
    (net.run world).outcome = (pass 0 net.operators world).outcome := by
  rw [← net.run_effect world, After.outcome_eq]

/-- The error of a run is that of one of its operators, with its position, name and type. -/
theorem run_error {net : Net Op} {world : World} {e : NetError} (h : (net.run world).outcome = .error e) :
    ∃ p, ∃ hp : p < net.operators.length, ∃ cause, e = net.operators[p].failed p cause := by
  rw [net.run_outcome, Effect.outcome] at h
  split at h
  next error hf =>
    cases h
    obtain ⟨i, hi, cause, he⟩ := pass_failure hf
    exact ⟨i, hi, cause, by simpa using he⟩
  next => cases h

end Net

end Dataflow
