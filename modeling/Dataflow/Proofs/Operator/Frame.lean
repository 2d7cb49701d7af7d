/-
What reference operators touch: an operator looks at the names that it reads
only (`compute_congr`) and writes under its output only, so a pass leaves every
other name alone (`pass_frame`).
-/
import Dataflow.Operator.Reference
import Dataflow.Proofs.NameMap
import Dataflow.Proofs.Net.Pass

namespace Dataflow

namespace Workspace

theorem get?_feed (ws : Workspace) (name other : String) (t : Tensor) :
    (ws.feed name t).get? other = if other = name then some t else ws.get? other :=
  NameMap.get?_insert ws name other t

theorem get?_feed_other (ws : Workspace) {name other : String} (t : Tensor) (h : other ≠ name) :
    (ws.feed name t).get? other = ws.get? other :=
  NameMap.get?_insert_other ws t h

theorem get?_feed_congr {v w : Workspace} {name other : String} (t : Tensor)
    (h : other ≠ name → v.get? other = w.get? other) : (v.feed name t).get? other = (w.feed name t).get? other := by
  rw [get?_feed, get?_feed]
  split
  · rfl
  next hother => exact h hother

theorem fetch_congr {ws ws' : Workspace} {name : String} (h : ws.get? name = ws'.get? name) :
    ws.fetch name = ws'.fetch name := by
  rw [fetch, fetch, h]

end Workspace

namespace Reference

namespace RefOperator

/-- **An operator looks at the names that it reads only.** -/
theorem compute_congr {ws ws' : Workspace} (op : RefOperator) (h : ∀ name ∈ op.reads, ws.get? name = ws'.get? name) :
    op.compute ws = op.compute ws' := by
  cases op with
  | fullyConnected input weight bias output =>
    have hx := Workspace.fetch_congr (h input (by simp [reads]))
    have hw := Workspace.fetch_congr (h weight (by simp [reads]))
    have hb := Workspace.fetch_congr (h bias (by simp [reads]))
    simp only [compute, hx, hw, hb]
  | relu input output =>
    have hx := Workspace.fetch_congr (h input (by simp [reads]))
    simp only [compute, hx]
  | add left right output =>
    have hl := Workspace.fetch_congr (h left (by simp [reads]))
    have hr := Workspace.fetch_congr (h right (by simp [reads]))
    simp only [compute, hl, hr]
  | copy input output => exact Workspace.fetch_congr (h input (by simp [reads]))

theorem compute_feed (op : RefOperator) {name : String} (h : name ∉ op.reads) (ws : Workspace) (t : Tensor) :
    op.compute (ws.feed name t) = op.compute ws :=
  op.compute_congr fun _ hother => ws.get?_feed_other t fun heq => h (heq ▸ hother)

end RefOperator

/-! ## Runs of one operator -/

/-- The turn of a reference operator: it computes its output and stores it. -/
structure Stored (o : NetOperator RefOperator) (before after : Workspace) (t : Tensor) : Prop where
  computed : o.op.compute before = .ok t
  stored : after = before.feed o.op.output t

theorem stored_of_ran {o : NetOperator RefOperator} {ws : Workspace} (h : (Operator.run o.op ws).failure = none) :
    ∃ t, Stored o ws (Operator.run o.op ws).world t := by
  simp only [Operator.run, RefOperator.run] at h ⊢
  cases ht : o.op.compute ws with
  | error e => rw [ht] at h; cases h
  | ok t => exact ⟨t, ht, rfl⟩

theorem world_of_refused {o : NetOperator RefOperator} {ws : Workspace} {cause : Failure}
    (h : (Operator.run o.op ws).failure = some cause) : (Operator.run o.op ws).world = ws := by
  simp only [Operator.run, RefOperator.run] at h ⊢
  cases ht : o.op.compute ws with
  | error e => rfl
  | ok t => rw [ht] at h; cases h

/-! ## Passes -/

theorem pass_cons_stored {position : Nat} {o : NetOperator RefOperator} {rest : List (NetOperator RefOperator)}
    {ws : Workspace} {t : Tensor} (h : o.op.compute ws = .ok t) :
    pass position (o :: rest) ws =
      ⟨o :: (pass (position + 1) rest (ws.feed o.op.output t)).operators,
        (pass (position + 1) rest (ws.feed o.op.output t)).world,
        (pass (position + 1) rest (ws.feed o.op.output t)).failure⟩ := by
  have hran : Operator.run o.op ws = ⟨o.op, ws.feed o.op.output t, none⟩ := by
    simp only [Operator.run, RefOperator.run, h]
  rw [pass_cons_ran (congrArg Ran.failure hran), hran]

theorem pass_cons_refused {position : Nat} {o : NetOperator RefOperator} {rest : List (NetOperator RefOperator)}
    {ws : Workspace} {cause : Failure} (h : o.op.compute ws = .error cause) :
    pass position (o :: rest) ws = ⟨o :: rest, ws, some (o.failed position cause)⟩ := by
  have hran : Operator.run o.op ws = ⟨o.op, ws, some cause⟩ := by
    simp only [Operator.run, RefOperator.run, h]
  rw [pass_cons_failed (congrArg Ran.failure hran), hran]

/-- Reference operators keep nothing from one run to the next. -/
theorem pass_operators (position : Nat) (ops : List (NetOperator RefOperator)) (ws : Workspace) :
    (pass position ops ws).operators = ops := by
  induction ops generalizing position ws with
  | nil => rfl
  | cons o rest ih =>
    cases h : o.op.compute ws with
    | error cause => rw [pass_cons_refused h]
    | ok t =>
      rw [pass_cons_stored h]
      exact congrArg (o :: ·) (ih (position + 1) (ws.feed o.op.output t))

/-- **A pass leaves every name alone that no operator writes.** -/
theorem pass_frame {name : String} {position : Nat} {ops : List (NetOperator RefOperator)} {ws : Workspace}
    (hops : ∀ o ∈ ops, o.op.output ≠ name) : (pass position ops ws).world.get? name = ws.get? name := by
  induction ops generalizing position ws with
  | nil => rfl
  | cons o rest ih =>
    obtain ⟨hout, hrest⟩ := List.forall_mem_cons.mp hops
    cases h : o.op.compute ws with
    | error cause => rw [pass_cons_refused h]
    | ok t =>
      rw [pass_cons_stored h]
      exact (ih hrest).trans (ws.get?_feed_other t hout.symm)

end Reference

end Dataflow
