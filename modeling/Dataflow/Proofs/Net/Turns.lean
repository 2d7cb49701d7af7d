/-
The turns of a pass: what the operator at each position does when the operators
before it have run. A pass takes the turns in order up to the first that fails,
so all that it does can be said position by position (`pass_of_ran`,
`pass_of_failed`), and a run stops at the position of that operator or behind
all of them (`Net.StopsAt.cases`).
-/
import Dataflow.Proofs.Net.Pass

namespace Dataflow

variable {Op World : Type} [Operator Op World]

/-- The world before the turn of the operator at a position. -/
def worldAt (ops : List (NetOperator Op)) (world : World) (position : Nat) : World :=
  (ops.take position).foldl (fun w o => (Operator.run o.op w).world) world

/-- What the operator at a position does, when the operators before it have run. -/
def turn (ops : List (NetOperator Op)) (world : World) (i : Fin ops.length) : Ran Op World :=
  Operator.run (ops.get i).op (worldAt ops world i)

def afterTurn (ops : List (NetOperator Op)) (world : World) (i : Fin ops.length) : NetOperator Op :=
  { ops.get i with op := (turn ops world i).op }

/-- No operator fails when all of them run one after the other. -/
def AllRan (ops : List (NetOperator Op)) (world : World) : Prop := ∀ i, (turn ops world i).failure = none

/-- The operators before a position all run, one after the other. -/
structure Completed (ops : List (NetOperator Op)) (world : World) (p : Nat) : Prop where
  le : p ≤ ops.length
  ran : ∀ i : Fin ops.length, i < p → (turn ops world i).failure = none

/-- The operator at a position fails for a reason, and none before it does. -/
structure FirstFailure (ops : List (NetOperator Op)) (world : World) (p : Fin ops.length) (cause : Failure) :
    Prop where
  before : ∀ i < p, (turn ops world i).failure = none
  here : (turn ops world p).failure = some cause

variable {o : NetOperator Op} {rest : List (NetOperator Op)} {world : World}

theorem worldAt_succ (ops : List (NetOperator Op)) (world : World) (i : Fin ops.length) :
    worldAt ops world (i + 1) = (turn ops world i).world := by
  rw [worldAt, turn, List.take_succ_eq_append_getElem i.isLt, List.foldl_append]
  rfl

theorem Completed.init {ops : List (NetOperator Op)} {p : Nat} (h : Completed ops world (p + 1)) :
    Completed ops world p :=
  ⟨Nat.le_of_succ_le h.le, fun i hi => h.ran i (Nat.lt_succ_of_lt hi)⟩

theorem Completed.last {ops : List (NetOperator Op)} {p : Nat} (h : Completed ops world (p + 1)) :
    (turn ops world ⟨p, h.le⟩).failure = none :=
  h.ran ⟨p, h.le⟩ (Nat.lt_succ_self p)

theorem AllRan.head (h : AllRan (o :: rest) world) : (Operator.run o.op world).failure = none := h 0

theorem AllRan.tail (h : AllRan (o :: rest) world) : AllRan rest (Operator.run o.op world).world :=
  fun i => h i.succ

theorem AllRan.cons (ho : (Operator.run o.op world).failure = none)
    (hrest : AllRan rest (Operator.run o.op world).world) : AllRan (o :: rest) world :=
  Fin.cases ho hrest

theorem FirstFailure.tail {p : Fin rest.length} {cause : Failure} (h : FirstFailure (o :: rest) world p.succ cause) :
    FirstFailure rest (Operator.run o.op world).world p cause where
  before i hi := h.before i.succ (Fin.succ_lt_succ_iff.mpr hi)
  here := h.here

theorem FirstFailure.head {p : Fin rest.length} {cause : Failure} (h : FirstFailure (o :: rest) world p.succ cause) :
    (Operator.run o.op world).failure = none := h.before 0 (Fin.succ_pos p)

theorem allRan_or_firstFailure (ops : List (NetOperator Op)) (world : World) :
    AllRan ops world ∨ ∃ p cause, FirstFailure ops world p cause := by
  induction ops generalizing world with
  | nil => exact .inl fun i => i.elim0
  | cons o rest ih =>
    cases ho : (Operator.run o.op world).failure with
    | some cause => exact .inr ⟨0, cause, fun i hi => absurd hi (Fin.not_lt_zero i), ho⟩
    | none =>
      rcases ih (Operator.run o.op world).world with hrest | ⟨p, cause, hp⟩
      · exact .inl (.cons ho hrest)
      · refine .inr ⟨p.succ, cause, fun i => ?_, hp.here⟩
        refine Fin.cases (fun _ => ho) (fun j hj => ?_) i
        exact hp.before j (Fin.succ_lt_succ_iff.mp hj)

/-! ## Passes -/

/-- A pass in which no operator fails takes all turns. -/
theorem pass_of_ran {position : Nat} {ops : List (NetOperator Op)} {world : World} (h : AllRan ops world) :
    pass position ops world = ⟨List.ofFn (afterTurn ops world), worldAt ops world ops.length, none⟩ := by
  induction ops generalizing position world with
  | nil => rfl
  | cons o rest ih =>
    rw [pass_cons_ran h.head, ih h.tail, List.ofFn_succ]
    rfl

/-- **A pass ends at the first operator that fails**: the operators behind it are left as they are. -/
theorem pass_of_failed {position : Nat} {ops : List (NetOperator Op)} {world : World} {p : Fin ops.length}
    {cause : Failure} (h : FirstFailure ops world p cause) :
    pass position ops world =
      ⟨List.ofFn fun i => if i ≤ p then afterTurn ops world i else ops.get i, (turn ops world p).world,
        some ((ops.get p).failed (position + p) cause)⟩ := by
  induction ops generalizing position world with
  | nil => exact p.elim0
  | cons o rest ih =>
    induction p using Fin.cases with
    | zero =>
      have ho : (Operator.run o.op world).failure = some cause := h.here
      have hbehind : (List.ofFn fun i : Fin rest.length =>
          if i.succ ≤ (0 : Fin (rest.length + 1)) then afterTurn (o :: rest) world i.succ else rest.get i) = rest := by
        refine List.ext_getElem (by simp) fun i hi _ => ?_
        rw [List.getElem_ofFn, if_neg (Fin.not_le.mpr (Fin.succ_pos _)), List.get_eq_getElem]
      rw [pass_cons_failed ho, List.ofFn_succ]
      exact congrArg (fun rest' => Effect.mk (afterTurn (o :: rest) world 0 :: rest')
        (Operator.run o.op world).world (some (o.failed position cause))) hbehind.symm
    | succ p =>
      rw [pass_cons_ran h.head, ih h.tail, List.ofFn_succ]
      simp only [Fin.succ_le_succ_iff, Fin.zero_le, if_true]
      have hposition : position + 1 + (p : Nat) = position + (p.succ : Nat) := by
        rw [Fin.val_succ]; omega
      rw [hposition]
      rfl

/-! ## Runs -/

namespace Net

variable {net : Net Op}

theorem run_of_ran (h : AllRan net.operators world) :
    (net.run world).outcome = .ok () ∧ (net.run world).world = worldAt net.operators world net.operators.length := by
  rw [net.run_outcome, net.run_world, pass_of_ran h]
  exact ⟨rfl, rfl⟩

theorem run_of_failed {p : Fin net.operators.length} {cause : Failure} (h : FirstFailure net.operators world p cause) :
    (net.run world).outcome = .error ((net.operators.get p).failed p cause) ∧
      (net.run world).world = (turn net.operators world p).world := by
  rw [net.run_outcome, net.run_world, pass_of_failed h, Nat.zero_add]
  exact ⟨rfl, rfl⟩

/-- The position that a run does not get past: that of the operator that fails, or that behind all
operators when the run succeeds. -/
def StopsAt (net : Net Op) (world : World) (p : Nat) : Prop :=
  match (net.run world).outcome with
  | .ok () => p = net.operators.length
  | .error e => e.failedPosition = some p

/-- Where a run stops, all operators have run or one is the first to fail. -/
theorem StopsAt.cases {p : Nat} (h : net.StopsAt world p) :
    (AllRan net.operators world ∧ p = net.operators.length) ∨
      ∃ hp : p < net.operators.length, ∃ cause, FirstFailure net.operators world ⟨p, hp⟩ cause := by
  unfold StopsAt at h
  rcases allRan_or_firstFailure net.operators world with hran | ⟨q, cause, hq⟩
  · rw [(run_of_ran hran).1] at h
    exact .inl ⟨hran, h⟩
  · rw [(run_of_failed hq).1] at h
    obtain rfl : (q : Nat) = p := Option.some.inj h
    exact .inr ⟨q.isLt, cause, hq⟩

theorem StopsAt.completed {p : Nat} (h : net.StopsAt world p) : Completed net.operators world p := by
  rcases h.cases with ⟨hran, rfl⟩ | ⟨hp, cause, hfirst⟩
  · exact ⟨Nat.le_refl _, fun i _ => hran i⟩
  · exact ⟨Nat.le_of_lt hp, fun i hi => hfirst.before i hi⟩

end Net

end Dataflow
