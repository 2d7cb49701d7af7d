/-
What a run of reference operators writes. Every operator before the position
where a run stops has stored its output, and the one that fails there, if any,
has stored nothing. So a name that none of them writes holds what it held
before, and any other name holds what the last of its writers has computed from
the workspace that it saw (`run_touches_outputs`).
-/
import Dataflow.Proofs.Net.Turns
import Dataflow.Proofs.Operator.Description
import Dataflow.Proofs.Operator.Frame

namespace Dataflow.Reference

variable {ops : List (NetOperator RefOperator)} {ws : Workspace} {p : Nat} {name : String}

/-! ## Turns -/

theorem turn_stored {i : Fin ops.length} (h : (turn ops ws i).failure = none) :
    ∃ t, Stored (ops.get i) (worldAt ops ws i) (worldAt ops ws (i + 1)) t := by
  rw [worldAt_succ]
  exact stored_of_ran h

/-- A run leaves what the operators before the position where it stops have stored. -/
theorem run_world_stopped {net : Net RefOperator} (h : net.StopsAt ws p) :
    (net.run ws).world = worldAt net.operators ws p := by
  rcases h.cases with ⟨hran, rfl⟩ | ⟨hp, cause, hfirst⟩
  · exact (Net.run_of_ran hran).2
  · rw [(Net.run_of_failed hfirst).2]
    exact world_of_refused hfirst.here

/-! ## Names that are written -/

def WrittenBefore (ops : List (NetOperator RefOperator)) (p : Nat) (name : String) : Prop :=
  ∃ i : Fin ops.length, i < p ∧ (ops.get i).op.output = name

/-- Of the operators before a position, the one at `i` is the last to write the name. -/
structure LastWriter (ops : List (NetOperator RefOperator)) (p : Nat) (name : String) (i : Fin ops.length) : Prop where
  before : i < p
  writes : (ops.get i).op.output = name
  last : ∀ k : Fin ops.length, i < k → k < p → (ops.get k).op.output ≠ name

theorem WrittenBefore.succ (h : WrittenBefore ops p name) : WrittenBefore ops (p + 1) name := by
  obtain ⟨i, hi, hname⟩ := h
  exact ⟨i, Nat.lt_succ_of_lt hi, hname⟩

theorem WrittenBefore.last_or_init (h : WrittenBefore ops (p + 1) name) (hp : p < ops.length)
    (hother : (ops.get ⟨p, hp⟩).op.output ≠ name) : WrittenBefore ops p name := by
  obtain ⟨i, hi, hname⟩ := h
  rcases Nat.lt_succ_iff_lt_or_eq.mp hi with hlt | heq
  · exact ⟨i, hlt, hname⟩
  · obtain rfl : i = ⟨p, hp⟩ := Fin.ext heq
    exact absurd hname hother

theorem LastWriter.succ {i : Fin ops.length} (h : LastWriter ops p name i) (hp : p < ops.length)
    (hother : (ops.get ⟨p, hp⟩).op.output ≠ name) : LastWriter ops (p + 1) name i := by
  refine ⟨Nat.lt_succ_of_lt h.before, h.writes, fun k hik hk => ?_⟩
  rcases Nat.lt_succ_iff_lt_or_eq.mp hk with hlt | heq
  · exact h.last k hik hlt
  · obtain rfl : k = ⟨p, hp⟩ := Fin.ext heq
    exact hother

theorem worldAt_unwritten (h : Completed ops ws p) (hname : ¬ WrittenBefore ops p name) :
    (worldAt ops ws p).get? name = ws.get? name := by
  induction p with
  | zero => rfl
  | succ p ih =>
    obtain ⟨t, ht⟩ := turn_stored h.last
    have hother : name ≠ (ops.get ⟨p, h.le⟩).op.output :=
      fun heq => hname ⟨⟨p, h.le⟩, Nat.lt_succ_self p, heq.symm⟩
    calc (worldAt ops ws (p + 1)).get? name
        = (worldAt ops ws p).get? name := by rw [ht.stored, Workspace.get?_feed_other _ _ hother]
      _ = ws.get? name := ih h.init fun hbefore => hname hbefore.succ

/-- A name that operators write holds what the last of its writers has computed at its turn. -/
theorem worldAt_written (h : Completed ops ws p) (hname : WrittenBefore ops p name) :
    ∃ i t, LastWriter ops p name i ∧ (ops.get i).op.compute (worldAt ops ws i) = .ok t ∧
      (worldAt ops ws p).get? name = some t := by
  induction p with
  | zero =>
    obtain ⟨i, hi, -⟩ := hname
    exact absurd hi (Nat.not_lt_zero i)
  | succ p ih =>
    obtain ⟨t, ht⟩ := turn_stored h.last
    by_cases hother : (ops.get ⟨p, h.le⟩).op.output = name
    · refine ⟨⟨p, h.le⟩, t, ⟨Nat.lt_succ_self p, hother, fun k hpk hk => ?_⟩, ht.computed, ?_⟩
      · exact absurd hpk (Nat.not_lt.mpr (Nat.le_of_lt_succ hk))
      · rw [ht.stored, Workspace.get?_feed, if_pos hother.symm]
    · obtain ⟨i, u, hi, hu, hget⟩ := ih h.init (hname.last_or_init h.le hother)
      refine ⟨i, u, hi.succ h.le hother, hu, ?_⟩
      rw [ht.stored, Workspace.get?_feed_other _ _ (Ne.symm hother)]
      exact hget

/-! ## Runs -/

/-- What it means that a run which stops at a position touches the outputs of the operators before it
and nothing else. -/
structure TouchesOutputs (net : Net RefOperator) (ws : Workspace) (p : Nat) : Prop where
  untouched : ∀ name, ¬ WrittenBefore net.operators p name → (net.run ws).world.get? name = ws.get? name
  kept : ∀ name, (ws.get? name).isSome → ((net.run ws).world.get? name).isSome
  /-- A name that one of them writes holds what the last of its writers has computed from the workspace
  before its turn. -/
  written : ∀ name, WrittenBefore net.operators p name →
    ∃ i t, LastWriter net.operators p name i ∧
      (net.operators.get i).op.compute (worldAt net.operators ws i) = .ok t ∧
      (net.run ws).world.get? name = some t
  refused : (net.run ws).world = worldAt net.operators ws p

/-- **A run touches only the outputs of the operators that completed.** -/
theorem run_touches_outputs (net : Net RefOperator) (ws : Workspace) (p : Nat) (hstop : net.StopsAt ws p) :
    TouchesOutputs net ws p := by
  have hcompleted := hstop.completed
  have hworld := run_world_stopped hstop
  have huntouched : ∀ name, ¬ WrittenBefore net.operators p name →
      (net.run ws).world.get? name = ws.get? name := by
    intro name hname
    rw [hworld]
    exact worldAt_unwritten hcompleted hname
  have hwritten : ∀ name, WrittenBefore net.operators p name →
      ∃ i t, LastWriter net.operators p name i ∧
        (net.operators.get i).op.compute (worldAt net.operators ws i) = .ok t ∧
        (net.run ws).world.get? name = some t := by
    intro name hname
    rw [hworld]
    exact worldAt_written hcompleted hname
  refine ⟨huntouched, fun name hsome => ?_, hwritten, hworld⟩
  by_cases hname : WrittenBefore net.operators p name
  · obtain ⟨i, t, -, -, ht⟩ := hwritten name hname
    rw [ht]
    rfl
  · rw [huntouched name hname]
    exact hsome

/-- A net whose third operator reads and writes a name that the second one writes, and finds no other
input. -/
def broken : Net RefOperator := netOf "broken" [.relu "x" "y", .copy "y" "x", .add "x" "bias" "x", .copy "x" "z"]

theorem run_touches_outputs_broken :
    let ws := Workspace.feed (.feed .empty "z" ⟨⟨[1]⟩, [7]⟩) "x" ⟨⟨[2]⟩, [1, -1]⟩
    broken.StopsAt ws 2 ∧ TouchesOutputs broken ws 2 ∧
      (broken.run ws).world.get? "x" = some ⟨⟨[2]⟩, [1, 0]⟩ ∧ (broken.run ws).world.get? "z" = ws.get? "z" := by
  intro ws
  have hstop : broken.StopsAt ws 2 := by
    unfold Net.StopsAt
    rw [Net.run_outcome]
    rfl
  have htouches := run_touches_outputs broken ws 2 hstop
  refine ⟨hstop, htouches, ?_, htouches.untouched "z" ?_⟩
  · rw [htouches.refused]
    rfl
  · rintro ⟨i, hi, hname⟩
    revert i
    decide

end Dataflow.Reference
