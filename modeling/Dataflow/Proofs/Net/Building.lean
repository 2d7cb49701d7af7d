/-
What the operators of a net are made from. A net that can be built has one
operator for each that its description names, in the same order; an operator
without a device of its own takes over that of the net (`resolve_spec`). Runs
change the operators, but not what they were made from.
-/
import Dataflow.Proofs.Net.Calls

namespace Dataflow

variable {Op σ : Type}

namespace NetSpec

/-- The description that an operator is made from: with a device of its own, else with that of the
net. -/
def resolvedSpec (spec : NetSpec) (i : Fin spec.ops.length) : OperatorSpec :=
  { spec.ops.get i with deviceOption := (spec.ops.get i).deviceOption <|> spec.deviceOption }

theorem resolve_spec (spec : NetSpec) (i : Fin spec.ops.length) : (spec.resolve i).spec = spec.resolvedSpec i := by
  simp only [resolve, resolvedSpec, Fin.getElem_fin, List.get_eq_getElem]
  split
  next device hown hnet => rw [hown, hnet]; rfl
  next hother =>
    have hkept : (spec.ops[(i : Nat)].deviceOption <|> spec.deviceOption) = spec.ops[(i : Nat)].deviceOption := by
      cases hown : spec.ops[(i : Nat)].deviceOption with
      | some own => rfl
      | none =>
        cases hnet : spec.deviceOption with
        | some device => exact (hother device hown hnet).elim
        | none => rfl
    rw [hkept]
    rfl

end NetSpec

theorem makeOperators_origins {factory : Factory Op σ} {origins : List ResolvedSpec} {position : Nat} {state : σ}
    {ops : List (NetOperator Op)} (h : (makeOperators factory position origins state).1 = .ok ops) :
    ops.map NetOperator.origin = origins := by
  induction origins generalizing position state ops with
  | nil => cases h; rfl
  | cons origin rest ih =>
    unfold makeOperators at h
    cases hmade : (factory origin.spec position state).outcome with
    | error cause => simp only [hmade] at h; cases h
    | ok op =>
      simp only [hmade] at h
      cases hrest : (makeOperators factory (position + 1) rest (factory origin.spec position state).state).1 with
      | error e => rw [hrest] at h; cases h
      | ok others =>
        rw [hrest] at h
        cases h
        exact congrArg (origin :: ·) (ih hrest)

theorem makeOperators_made {factory : Factory Op σ} {origins : List ResolvedSpec} {position : Nat} {state : σ}
    {ops : List (NetOperator Op)} (h : (makeOperators factory position origins state).1 = .ok ops) :
    ∀ o ∈ ops, ∃ position' state', (factory o.spec position' state').outcome = .ok o.op := by
  induction origins generalizing position state ops with
  | nil => cases h; simp
  | cons origin rest ih =>
    unfold makeOperators at h
    cases hmade : (factory origin.spec position state).outcome with
    | error cause => simp only [hmade] at h; cases h
    | ok op =>
      simp only [hmade] at h
      cases hrest : (makeOperators factory (position + 1) rest (factory origin.spec position state).state).1 with
      | error e => rw [hrest] at h; cases h
      | ok others =>
        rw [hrest] at h
        cases h
        exact List.forall_mem_cons.mpr ⟨⟨position, state, hmade⟩, ih hrest⟩

namespace Net

/-- The operators of the net are those that a description asks for. -/
def MadeFrom (net : Net Op) (spec : NetSpec) : Prop :=
  net.operators.map NetOperator.origin = spec.resolvedOperators

theorem build_madeFrom {spec : NetSpec} {factory : Factory Op σ} {state : σ} {net : Net Op}
    (h : (build spec factory state).outcome = .ok net) : net.MadeFrom spec := by
  unfold build at h
  cases hmade : (makeOperators factory 0 spec.resolvedOperators state).1 with
  | error e => simp only [hmade] at h; cases h
  | ok ops =>
    simp only [hmade] at h
    cases h
    exact makeOperators_origins hmade

theorem build_made {spec : NetSpec} {factory : Factory Op σ} {state : σ} {net : Net Op}
    (h : (build spec factory state).outcome = .ok net) :
    ∀ o ∈ net.operators, ∃ position state', (factory o.spec position state').outcome = .ok o.op := by
  unfold build at h
  cases hmade : (makeOperators factory 0 spec.resolvedOperators state).1 with
  | error e => simp only [hmade] at h; cases h
  | ok ops =>
    simp only [hmade] at h
    cases h
    exact makeOperators_made hmade

namespace MadeFrom

variable {World : Type} {net : Net Op} {spec : NetSpec}

theorem length (h : net.MadeFrom spec) : net.operators.length = spec.ops.length := by
  simpa [NetSpec.resolvedOperators] using congrArg List.length h

theorem spec_eq (h : net.MadeFrom spec) (i : Fin spec.ops.length) (hi : i < net.operators.length) :
    net.operators[(i : Nat)].spec = spec.resolvedSpec i := by
  have horigin : net.operators[(i : Nat)].origin = spec.resolve i := by
    have hat := congrArg (·[(i : Nat)]?) h
    simpa [NetSpec.resolvedOperators, hi] using hat
  rw [NetOperator.spec, horigin, spec.resolve_spec]

theorem afterCalls [Operator Op World] (h : net.MadeFrom spec) (world : World) (t : Nat) :
    (net.afterCalls world t).1.MadeFrom spec :=
  (net.afterCalls_origins world t).trans h

end MadeFrom

end Net

end Dataflow
