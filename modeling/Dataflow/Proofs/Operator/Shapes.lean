/-
Reference operators on shapes alone: what an operator stores, and why it
fails, is decided by the shapes in the workspace (`compute_shape`), so runs do
not tell apart workspaces of the same names with the same shapes
(`SameShapes.runsAlike`).
-/
import Dataflow.Operator.Reference
import Dataflow.Proofs.Net.Alike
import Dataflow.Proofs.Tensor.Shapes

namespace Dataflow

/-- Every tensor holds as many values as its shape has elements. -/
def Workspace.Consistent (ws : Workspace) : Prop := ∀ name t, ws.get? name = some t → t.Consistent

namespace Workspace

theorem consistent_empty : Consistent .empty := fun _ _ h => by cases h

theorem Consistent.feed {ws : Workspace} (h : ws.Consistent) (name : String) {t : Tensor} (ht : t.Consistent) :
    (ws.feed name t).Consistent := by
  intro other u hu
  rw [Workspace.feed, NameMap.get?_insert] at hu
  split at hu
  · cases hu; exact ht
  · exact h other u hu

theorem shape?_feed (ws : Workspace) (name other : String) (t : Tensor) :
    (ws.feed name t).shape? other = if other = name then some t.shape else ws.shape? other := by
  unfold shape? Workspace.feed
  rw [NameMap.get?_insert]
  split <;> rfl

end Workspace

namespace Reference

def fetchShape (shapes : String → Option Shape) (name : String) : Except Failure Shape :=
  match shapes name with
  | some shape => .ok shape
  | none => .error (.noTensor name)

theorem fetch_shape (ws : Workspace) (name : String) :
    (ws.fetch name).map Tensor.shape = fetchShape ws.shape? name := by
  unfold Workspace.fetch fetchShape Workspace.shape?
  cases ws.get? name <;> rfl

theorem fetch_consistent {ws : Workspace} (h : ws.Consistent) {name : String} {t : Tensor}
    (ht : ws.fetch name = .ok t) : t.Consistent := by
  unfold Workspace.fetch at ht
  cases hu : ws.get? name with
  | none => rw [hu] at ht; cases ht
  | some u => rw [hu] at ht; cases ht; exact h name t hu

namespace RefOperator

/-- The shape of what an operator stores, from the shapes under the names. -/
def shapeOf (shapes : String → Option Shape) : RefOperator → Except Failure Shape
  | fullyConnected input weight bias _ => do
    Kernel.fullyConnectedShape (← fetchShape shapes input) (← fetchShape shapes weight) (← fetchShape shapes bias)
  | relu input _ => fetchShape shapes input
  | add left right _ => do Kernel.addShape (← fetchShape shapes left) (← fetchShape shapes right)
  | copy input _ => fetchShape shapes input

/-- **An operator is decided by shapes**: the shape of what it stores, and its errors. -/
theorem compute_shape {ws : Workspace} (h : ws.Consistent) (op : RefOperator) :
    (op.compute ws).map Tensor.shape = op.shapeOf ws.shape? := by
  cases op with
  | fullyConnected input weight bias output =>
    simp only [compute, shapeOf, ← fetch_shape]
    cases hx : ws.fetch input with
    | error e => rfl
    | ok x =>
      cases hw : ws.fetch weight with
      | error e => rfl
      | ok w =>
        cases hb : ws.fetch bias with
        | error e => rfl
        | ok b =>
          exact Kernel.fullyConnected_shape (fetch_consistent h hx) (fetch_consistent h hw) (fetch_consistent h hb)
  | relu input output =>
    simp only [compute, shapeOf, ← fetch_shape]
    cases ws.fetch input <;> rfl
  | add left right output =>
    simp only [compute, shapeOf, ← fetch_shape]
    cases hl : ws.fetch left with
    | error e => rfl
    | ok l =>
      cases hr : ws.fetch right with
      | error e => rfl
      | ok r => exact Kernel.add_shape (fetch_consistent h hl) (fetch_consistent h hr)
  | copy input output => exact fetch_shape ws input

theorem compute_consistent {ws : Workspace} (h : ws.Consistent) {op : RefOperator} {t : Tensor}
    (ht : op.compute ws = .ok t) : t.Consistent := by
  cases op with
  | fullyConnected input weight bias output =>
    simp only [compute] at ht
    cases hx : ws.fetch input <;> cases hw : ws.fetch weight <;> cases hb : ws.fetch bias <;>
      simp only [hx, hw, hb] at ht <;> first | cases ht | exact Kernel.fullyConnected_consistent ht
  | relu input output =>
    simp only [compute] at ht
    cases hx : ws.fetch input with
    | error e => rw [hx] at ht; cases ht
    | ok x =>
      rw [hx] at ht
      cases ht
      exact Kernel.relu_consistent (fetch_consistent h hx)
  | add left right output =>
    simp only [compute] at ht
    cases hl : ws.fetch left <;> cases hr : ws.fetch right <;>
      simp only [hl, hr] at ht <;> first | cases ht | exact Kernel.add_consistent ht
  | copy input output => exact fetch_consistent h ht

end RefOperator

/-- Workspaces of the same names with the same shapes, in which every tensor holds as many values as
its shape has elements. -/
structure SameShapes (ws ws' : Workspace) : Prop where
  shape : ∀ name, ws.shape? name = ws'.shape? name
  left : ws.Consistent
  right : ws'.Consistent

namespace SameShapes

theorem feed {ws ws' : Workspace} (h : SameShapes ws ws') (name : String) {t t' : Tensor}
    (hshape : t.shape = t'.shape) (ht : t.Consistent) (ht' : t'.Consistent) :
    SameShapes (ws.feed name t) (ws'.feed name t') where
  shape other := by
    rw [Workspace.shape?_feed, Workspace.shape?_feed, hshape, h.shape other]
  left := h.left.feed name ht
  right := h.right.feed name ht'

theorem shapes? {ws ws' : Workspace} (h : SameShapes ws ws') (names : List String) :
    ws.shapes? names = ws'.shapes? names := by
  have hshape : ws.shape? = ws'.shape? := funext h.shape
  rw [Workspace.shapes?, Workspace.shapes?, hshape]

/-- **Runs do not tell workspaces of the same shapes apart.** -/
theorem runsAlike : RunsAlike RefOperator SameShapes := by
  intro op ws ws' h
  have hshape : (op.compute ws).map Tensor.shape = (op.compute ws').map Tensor.shape := by
    rw [op.compute_shape h.left, op.compute_shape h.right, funext h.shape]
  simp only [Operator.run, RefOperator.run]
  cases ht : op.compute ws with
  | error e =>
    cases ht' : op.compute ws' with
    | error e' =>
      rw [ht, ht'] at hshape
      cases hshape
      exact ⟨rfl, rfl, h⟩
    | ok t' => rw [ht, ht'] at hshape; cases hshape
  | ok t =>
    cases ht' : op.compute ws' with
    | error e' => rw [ht, ht'] at hshape; cases hshape
    | ok t' =>
      rw [ht, ht'] at hshape
      exact ⟨rfl, rfl, h.feed op.output (Except.ok.inj hshape) (RefOperator.compute_consistent h.left ht)
        (RefOperator.compute_consistent h.right ht')⟩

end SameShapes

end Reference

end Dataflow
