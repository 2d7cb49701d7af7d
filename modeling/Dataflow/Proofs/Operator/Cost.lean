/-
The costs of the reference operators against what the operators do. The cost
functions look at the shapes of the inputs, the operators at the values. When
an operator has computed its output, every shape that it reports is known, and
its cost counts the elements of this output (`estimatedCost_told`).
-/
import Dataflow.Proofs.Benchmark.Costs
import Dataflow.Proofs.Operator.Description
import Dataflow.Proofs.Operator.Shapes
import Mathlib.Tactic.Ring

namespace Dataflow

/-- The cost has these amounts, as far as words of 64 bits hold them. -/
structure Cost.Amounts (cost : Cost) (flops bytesMoved paramsBytes : Nat) : Prop where
  flops : flops < 2 ^ 64 → cost.flops.toNat = flops
  bytesMoved : bytesMoved < 2 ^ 64 → cost.bytesMoved.toNat = bytesMoved
  paramsBytes : paramsBytes < 2 ^ 64 → cost.paramsBytes.toNat = paramsBytes

theorem Cost.amounts_ofNat (flops bytesMoved paramsBytes : Nat) :
    Amounts ⟨.ofNat flops, .ofNat bytesMoved, .ofNat paramsBytes⟩ flops bytesMoved paramsBytes :=
  ⟨UInt64.toNat_ofNat_of_lt', UInt64.toNat_ofNat_of_lt', UInt64.toNat_ofNat_of_lt'⟩

namespace Kernel

/-- What is known of the sizes when a fully connected layer could be computed. -/
structure Layer (x w b t : Tensor) (rowCount width : UInt64) : Prop where
  dims : w.shape.dims = [rowCount, width]
  nonempty : width.toNat ≠ 0
  weight : w.data.length = rowCount.toNat * width.toNat
  bias : b.data.length = rowCount.toNat
  stored : t.data.length = x.data.length / width.toNat * rowCount.toNat

theorem fullyConnected_layer {x w b t : Tensor} (h : fullyConnected x w b = .ok t) :
    ∃ rowCount width, Layer x w b t rowCount width := by
  unfold fullyConnected at h
  rcases hdims : w.shape.dims with _ | ⟨rowCount, _ | ⟨width, _ | ⟨third, more⟩⟩⟩
  case cons.cons.nil =>
    simp only [hdims] at h
    split at h
    · cases h
    next hweight =>
      split at h
      · cases h
      next hinput =>
        split at h
        · cases h
        next hbias =>
          obtain ⟨rfl, -⟩ := Tensor.ofData_ok h
          have hb : b.data.length = rowCount.toNat := Decidable.not_not.mp hbias
          refine ⟨rowCount, width, hdims, ?_, Decidable.not_not.mp hweight, hb, ?_⟩
          · exact Nat.pos_iff_ne_zero.mp (Decidable.not_not.mp hinput).1
          · rw [length_affine, hb, Nat.min_self]
  all_goals simp only [hdims] at h; cases h

theorem length_add {left right t : Tensor} (h : add left right = .ok t) : t.data.length = left.data.length := by
  unfold add at h
  split at h
  next hlen =>
    obtain ⟨rfl, -⟩ := Tensor.ofData_ok h
    rw [List.length_zipWith, hlen, Nat.min_self]
  next => cases h

theorem Layer.cost {x w b t : Tensor} {rowCount width : UInt64} (h : Layer x w b t rowCount width)
    (hx : x.Consistent) (spec : OperatorSpec) :
    (Cost.fullyConnected spec [x.shape, w.shape, b.shape]).Amounts (2 * width.toNat * t.data.length)
      (4 * t.data.length) (4 * (w.data.length + b.data.length)) := by
  have hflops : 2 * width.toNat * t.data.length =
      2 * (x.shape.numel / width.toNat) * width.toNat * rowCount.toNat := by
    rw [h.stored, hx]; ring
  have hbytes : 4 * t.data.length = x.shape.numel / width.toNat * rowCount.toNat * Cost.elementBytes := by
    rw [h.stored, hx, Cost.elementBytes]; ring
  have hparams : 4 * (w.data.length + b.data.length) =
      (width.toNat * rowCount.toNat + rowCount.toNat) * Cost.elementBytes := by
    rw [h.weight, h.bias, Cost.elementBytes]; ring
  simp only [Cost.fullyConnected, h.dims, h.nonempty, if_false]
  rw [hflops, hbytes, hparams]
  exact Cost.amounts_ofNat ..

theorem pointwise_cost {x t : Tensor} (h : t.data.length = x.data.length) (hx : x.Consistent) (spec : OperatorSpec)
    (others : List Shape) :
    (Cost.pointwise spec (x.shape :: others)).Amounts t.data.length (4 * t.data.length) 0 := by
  have hnumel : x.shape.numel = t.data.length := by rw [h, hx]
  simp only [Cost.pointwise, List.head?_cons, Option.map_some, Option.getD_some, hnumel, Cost.elementBytes,
    Nat.mul_comm _ 4]
  exact Cost.amounts_ofNat ..

end Kernel

namespace Reference

theorem shape?_of_fetch {ws : Workspace} {name : String} {t : Tensor} (h : ws.fetch name = .ok t) :
    ws.shape? name = some t.shape := by
  unfold Workspace.fetch at h
  unfold Workspace.shape?
  cases hget : ws.get? name with
  | none => rw [hget] at h; cases h
  | some u => rw [hget] at h; cases h; rfl

/-- What it means that a cost tells what an operator has done, which has stored a tensor that it
computed from a workspace. A copy is not costed. -/
def RefOperator.Told (op : RefOperator) (ws : Workspace) (stored : Tensor) (cost : Option Cost) : Prop :=
  match op with
  | .fullyConnected _ weight bias _ => ∃ w b rowCount width c, ws.fetch weight = .ok w ∧ ws.fetch bias = .ok b ∧
    w.shape.dims = [rowCount, width] ∧ cost = some c ∧
    c.Amounts (2 * width.toNat * stored.data.length) (4 * stored.data.length) (4 * (w.data.length + b.data.length))
  | .relu _ _ | .add _ _ _ => ∃ c, cost = some c ∧ c.Amounts stored.data.length (4 * stored.data.length) 0
  | .copy _ _ => cost = none

theorem estimatedCost_of_shapes {o : NetOperator RefOperator} (hmade : ofSpec o.spec = .ok o.op) (f : CostFunction)
    (hf : schemas.costFunction? o.op.description.opType = some f) (ws : Workspace) (shapes : List Shape)
    (hshapes : o.op.reads.mapM ws.shape? = some shapes) (hlength : shapes.length = o.op.reads.length) :
    estimatedCost schemas o ws = some (f o.spec shapes) := by
  obtain ⟨htype, hinputs, -⟩ := ofSpec_eq_ok_iff.mp hmade
  have hreported : (Operator.inputShapes o.op ws).1 = shapes := by
    simp only [Operator.inputShapes, Workspace.shapes?, hshapes, Option.getD_some]
  refine estimatedCost_eq_some.mpr ⟨f, by rw [htype, hf], ?_, by rw [hreported]⟩
  rw [hreported, hinputs, hlength]

/-- **The cost of an operator tells what the operator does**, when it can compute its output. -/
theorem estimatedCost_told {o : NetOperator RefOperator} (hmade : ofSpec o.spec = .ok o.op) {ws : Workspace}
    (hws : ws.Consistent) {t : Tensor} (h : o.op.compute ws = .ok t) :
    o.op.Told ws t (estimatedCost schemas o ws) := by
  have hcosted := @estimatedCost_of_shapes o hmade
  cases hop : o.op with
  | fullyConnected input weight bias output =>
    simp only [hop, RefOperator.compute] at h hcosted
    cases hx : ws.fetch input <;> cases hw : ws.fetch weight <;> cases hb : ws.fetch bias <;>
      simp only [hx, hw, hb] at h <;> try cases h
    next x w b =>
      obtain ⟨rowCount, width, hlayer⟩ := Kernel.fullyConnected_layer h
      have hcost := hcosted Cost.fullyConnected rfl ws [x.shape, w.shape, b.shape]
        (by simp [RefOperator.reads, shape?_of_fetch hx, shape?_of_fetch hw, shape?_of_fetch hb]) rfl
      exact ⟨w, b, rowCount, width, _, hw, hb, hlayer.dims, hcost, hlayer.cost (fetch_consistent hws hx) _⟩
  | relu input output =>
    simp only [hop, RefOperator.compute] at h hcosted
    cases hx : ws.fetch input <;> simp only [hx] at h <;> cases h
    next x =>
      have hcost := hcosted Cost.pointwise rfl ws [x.shape]
        (by simp [RefOperator.reads, shape?_of_fetch hx]) rfl
      exact ⟨_, hcost, Kernel.pointwise_cost (List.length_map _) (fetch_consistent hws hx) _ _⟩
  | add left right output =>
    simp only [hop, RefOperator.compute] at h hcosted
    cases hl : ws.fetch left <;> cases hr : ws.fetch right <;> simp only [hl, hr] at h <;> try cases h
    next l r =>
      have hcost := hcosted Cost.pointwise rfl ws [l.shape, r.shape]
        (by simp [RefOperator.reads, shape?_of_fetch hl, shape?_of_fetch hr]) rfl
      exact ⟨_, hcost, Kernel.pointwise_cost (Kernel.length_add h) (fetch_consistent hws hl) _ _⟩
  | copy input output =>
    have hf : schemas.costFunction? o.spec.opType = none := by rw [(ofSpec_eq_ok_iff.mp hmade).1, hop]; rfl
    simp only [RefOperator.Told, estimatedCost, hf]

end Reference

end Dataflow
