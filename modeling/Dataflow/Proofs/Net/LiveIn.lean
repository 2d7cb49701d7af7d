/-
What a run of reference operators depends on. A name is live-in when an operator
reads it that no operator before it has written. Two workspaces that agree on
the live-in names agree, turn by turn, on the names that have been written as
well (`agree_worldAt`), and every operator reads names of these two kinds only.
So whatever else the workspaces hold makes no difference (`run_decided_by_liveIn`).
-/
import Dataflow.Proofs.Net.Writes

namespace Dataflow.Reference

variable {ops : List (NetOperator RefOperator)} {v w : Workspace} {p : Nat} {name : String}

/-- An operator reads the name, and no operator before it writes it. -/
def LiveIn (ops : List (NetOperator RefOperator)) (name : String) : Prop :=
  ∃ i : Fin ops.length, name ∈ (ops.get i).op.reads ∧ ¬ WrittenBefore ops i name

/-- Two workspaces agree on the live-in names and on those that the operators before a position write:
both hold the same tensor, or neither holds one. -/
def Agree (ops : List (NetOperator RefOperator)) (p : Nat) (v w : Workspace) : Prop :=
  ∀ name, LiveIn ops name ∨ WrittenBefore ops p name → v.get? name = w.get? name

theorem agree_zero (h : ∀ name, LiveIn ops name → v.get? name = w.get? name) : Agree ops 0 v w := by
  intro name hname
  rcases hname with hlive | ⟨i, hi, -⟩
  · exact h name hlive
  · exact absurd hi (Nat.not_lt_zero i)

/-! ## Turns -/

theorem Agree.compute {i : Fin ops.length} (h : Agree ops i v w) :
    (ops.get i).op.compute v = (ops.get i).op.compute w := by
  refine (ops.get i).op.compute_congr fun name hread => h name ?_
  by_cases hwritten : WrittenBefore ops i name
  · exact .inr hwritten
  · exact .inl ⟨i, hread, hwritten⟩

theorem Agree.failure {i : Fin ops.length} (h : Agree ops i v w) :
    (Operator.run (ops.get i).op v).failure = (Operator.run (ops.get i).op w).failure := by
  have hcompute := h.compute
  simp only [Operator.run, RefOperator.run, hcompute]
  cases (ops.get i).op.compute w <;> rfl

theorem Agree.stored {hp : p < ops.length} (h : Agree ops p v w)
    (hran : (Operator.run (ops.get ⟨p, hp⟩).op w).failure = none) :
    Agree ops (p + 1) (Operator.run (ops.get ⟨p, hp⟩).op v).world (Operator.run (ops.get ⟨p, hp⟩).op w).world := by
  obtain ⟨t, ht⟩ := stored_of_ran hran
  obtain ⟨u, hu⟩ := stored_of_ran ((Agree.failure (i := ⟨p, hp⟩) h).trans hran)
  have heq : u = t := Except.ok.inj (hu.computed.symm.trans ((Agree.compute (i := ⟨p, hp⟩) h).trans ht.computed))
  intro name hname
  rw [hu.stored, ht.stored, heq]
  refine Workspace.get?_feed_congr t fun hother => h name ?_
  exact hname.imp_right fun hwritten => hwritten.last_or_init hp hother.symm

/-- **The agreement grows turn by turn.** -/
theorem agree_worldAt (h : Agree ops 0 v w) (hw : Completed ops w p) :
    Agree ops p (worldAt ops v p) (worldAt ops w p) := by
  induction p with
  | zero => exact h
  | succ p ih =>
    have hagree : Agree ops (p + 1) (turn ops v ⟨p, hw.le⟩).world (turn ops w ⟨p, hw.le⟩).world :=
      (ih hw.init).stored hw.last
    rw [← worldAt_succ, ← worldAt_succ] at hagree
    exact hagree

/-- An operator that has its turn fails in both passes or in neither. -/
theorem turn_failure_congr (h : Agree ops 0 v w) {i : Fin ops.length} (hw : Completed ops w i) :
    (turn ops v i).failure = (turn ops w i).failure :=
  (agree_worldAt h hw).failure

/-! ## Runs -/

/-- What it means that a run does the same on two workspaces, as far as its net can tell. -/
structure RunAlike (net : Net RefOperator) (v w : Workspace) : Prop where
  outcome : (net.run v).outcome = (net.run w).outcome
  agree : ∀ p, net.StopsAt w p → Agree net.operators p (net.run v).world (net.run w).world

theorem outcome_congr {net : Net RefOperator} (h : Agree net.operators 0 v w) :
    (net.run v).outcome = (net.run w).outcome := by
  rcases allRan_or_firstFailure net.operators w with hw | ⟨p, cause, hw⟩
  · have hv : AllRan net.operators v := fun i =>
      (turn_failure_congr h ⟨Nat.le_of_lt i.isLt, fun k _ => hw k⟩).trans (hw i)
    rw [(Net.run_of_ran hv).1, (Net.run_of_ran hw).1]
  · have hcompleted : ∀ i ≤ p, Completed net.operators w i := fun i hi =>
      ⟨Nat.le_of_lt i.isLt, fun k hk => hw.before k (Nat.lt_of_lt_of_le hk hi)⟩
    have hv : FirstFailure net.operators v p cause :=
      { before := fun i hi => (turn_failure_congr h (hcompleted i (Fin.le_of_lt hi))).trans (hw.before i hi)
        here := (turn_failure_congr h (hcompleted p (Nat.le_refl p))).trans hw.here }
    rw [(Net.run_of_failed hv).1, (Net.run_of_failed hw).1]

/-- **A run depends only on the tensors that the net reads before it writes them.** -/
theorem run_decided_by_liveIn (net : Net RefOperator) (v w : Workspace)
    (hlive : ∀ name, LiveIn net.operators name → v.get? name = w.get? name) : RunAlike net v w := by
  have hagree : Agree net.operators 0 v w := agree_zero hlive
  have houtcome := outcome_congr hagree
  refine ⟨houtcome, fun p hstop => ?_⟩
  have hstop' : net.StopsAt v p := by
    unfold Net.StopsAt
    rw [houtcome]
    exact hstop
  rw [run_world_stopped hstop, run_world_stopped hstop']
  exact agree_worldAt hagree hstop.completed

/-- A net that writes a name, works in place on it, and then lacks an input. -/
def inPlace : Net RefOperator := netOf "in place" [.relu "x" "y", .add "y" "x" "y", .copy "bias" "z"]

theorem run_decided_by_liveIn_stale :
    let w := Workspace.feed .empty "x" ⟨⟨[2]⟩, [1, -1]⟩
    let v := (w.feed "y" ⟨⟨[1]⟩, [7]⟩).feed "z" ⟨⟨[1]⟩, [8]⟩
    (∀ name, LiveIn inPlace.operators name → v.get? name = w.get? name) ∧ v.get? "y" ≠ w.get? "y" ∧
      RunAlike inPlace v w ∧ inPlace.StopsAt w 2 ∧
      (inPlace.run v).world.get? "y" = (inPlace.run w).world.get? "y" := by
  intro w v
  have hy : ¬ LiveIn inPlace.operators "y" := by
    unfold LiveIn WrittenBefore
    decide
  have hz : ¬ LiveIn inPlace.operators "z" := by
    unfold LiveIn WrittenBefore
    decide
  have hlive : ∀ name, LiveIn inPlace.operators name → v.get? name = w.get? name := by
    intro name hname
    have hnz : name ≠ "z" := fun heq => hz (heq ▸ hname)
    have hny : name ≠ "y" := fun heq => hy (heq ▸ hname)
    rw [Workspace.get?_feed_other _ _ hnz, Workspace.get?_feed_other _ _ hny]
  have hstop : inPlace.StopsAt w 2 := by
    unfold Net.StopsAt
    rw [Net.run_outcome]
    rfl
  have halike := run_decided_by_liveIn inPlace v w hlive
  refine ⟨hlive, ?_, halike, hstop, halike.agree 2 hstop "y" (.inr ⟨⟨1, by decide⟩, by decide, rfl⟩)⟩
  rw [Workspace.get?_feed_other _ _ (by decide), Workspace.get?_feed, if_pos rfl]
  exact Option.some_ne_none _

end Dataflow.Reference
