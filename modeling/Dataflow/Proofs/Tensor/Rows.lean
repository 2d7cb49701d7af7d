/-
How a fully connected layer takes its input apart. A row is a run of as many
values as the weight is wide, and only the values count, not the dimensions that
they come in (`fullyConnected_values`). So an input whose last dimension is the
width is taken along this dimension, and any other one is taken apart across its
own rows, as long as its values fill whole rows of the width
(`fullyConnected_readsRows`).
-/
import Dataflow.Proofs.Tensor.Layer

namespace Dataflow

namespace Kernel

/-- What is known of the rows in which a layer of a weight `[n, k]` reads its input. -/
structure ReadsRows (x w b : Tensor) (n k : UInt64) : Prop where
  /-- An input whose last dimension is the width is never refused. The result has a row for each of its
  rows, of which there are as many as the product of the other dimensions. -/
  own : ∀ front, x.shape.dims = front ++ [k] → 0 < k.toNat →
    fullyConnected x w b ≠ .error (.inputSize x.shape w.shape) ∧
      ∀ y, fullyConnected x w b = .ok y → ∃ m, y.shape.dims = [m, n] ∧ m.toNat = (Shape.mk front).numel
  refused : fullyConnected x w b = .error (.inputSize x.shape w.shape) ↔ ¬ (0 < k.toNat ∧ k.toNat ∣ x.shape.numel)
  /-- An input that fills whole rows is taken for the one that has the same values in rows of the width. -/
  regrouped : 0 < k.toNat ∧ k.toNat ∣ x.shape.numel →
    fullyConnected x w b = fullyConnected ⟨⟨[.ofNat (x.shape.numel / k.toNat), k]⟩, x.data⟩ w b

section

variable {x w b : Tensor} {n k : UInt64}

theorem fullyConnected_values {x' : Tensor} (hdata : x'.data = x.data) (hdims : w.shape.dims = [n, k])
    (hrows : 0 < k.toNat ∧ k.toNat ∣ x.data.length) : fullyConnected x w b = fullyConnected x' w b := by
  have hfill : 0 < k.toNat ∧ x.data.length % k.toNat = 0 := ⟨hrows.1, Nat.mod_eq_zero_of_dvd hrows.2⟩
  simp only [fullyConnected, hdims, hdata, hfill, and_self, not_true_eq_false, if_false]

theorem numel_front {front : List UInt64} (h : x.shape.dims = front ++ [k]) :
    x.shape.numel = (Shape.mk front).numel * k.toNat := by
  obtain ⟨⟨dims⟩, data⟩ := x
  obtain rfl : dims = front ++ [k] := h
  rw [Shape.numel_append]
  exact congrArg _ (Nat.mul_one k.toNat)

theorem inputSize_iff (hx : x.Consistent) (hw : w.Consistent) (hb : b.Consistent) (hdims : w.shape.dims = [n, k]) :
    fullyConnected x w b = .error (.inputSize x.shape w.shape) ↔ ¬ (0 < k.toNat ∧ k.toNat ∣ x.shape.numel) := by
  rw [fullyConnected_of_dims hx hw hb hdims]
  constructor
  · intro h hrows
    rw [if_neg (not_not_intro hrows)] at h
    split at h
    · cases h
    · unfold Tensor.ofData at h
      split at h <;> cases h
  · intro hrows
    rw [if_pos hrows]

end

/-- **A layer reads its input in rows of the width of its weight, wherever the rows of the input end.** The
tensors hold as many values as their shapes have elements, and the values of the input are counted by a
word. -/
theorem fullyConnected_readsRows (x w b : Tensor) (n k : UInt64) (hx : x.Consistent) (hw : w.Consistent)
    (hb : b.Consistent) (hword : x.data.length < 2 ^ 64) (hdims : w.shape.dims = [n, k]) : ReadsRows x w b n k where
  own front hfront hpos := by
    have hnumel := numel_front hfront
    have hrows : 0 < k.toNat ∧ k.toNat ∣ x.shape.numel := ⟨hpos, hnumel ▸ Nat.dvd_mul_left ..⟩
    refine ⟨fun hrefused => (inputSize_iff hx hw hb hdims).mp hrefused hrows, fun y hy => ?_⟩
    have hbias := (accepts_of_ok hx hw hb hdims hy).2
    rw [fullyConnected_ok hx hw hb hword hdims hrows hbias] at hy
    cases hy
    refine ⟨_, rfl, ?_⟩
    have hcount : x.shape.numel / k.toNat = (Shape.mk front).numel := by rw [hnumel, Nat.mul_div_cancel _ hpos]
    rw [hcount]
    refine UInt64.toNat_ofNat_of_lt' (Nat.lt_of_le_of_lt ?_ hword)
    rw [hx, ← hcount]
    exact Nat.div_le_self ..
  refused := inputSize_iff hx hw hb hdims
  regrouped hrows := by
    rw [← hx] at hrows
    exact fullyConnected_values rfl hdims hrows

def threePairs : Tensor := ⟨⟨[3, 2]⟩, [1, 2, 3, 4, 5, 6]⟩

def threeOnes : Tensor := ⟨⟨[1, 3]⟩, [1, 1, 1]⟩

def noBias : Tensor := ⟨⟨[1]⟩, [0]⟩

/-- The input is taken apart across its own rows; with a value less it would be refused. -/
theorem fullyConnected_readsRows_across :
    fullyConnected threePairs threeOnes noBias = fullyConnected ⟨⟨[2, 3]⟩, threePairs.data⟩ threeOnes noBias ∧
      fullyConnected noBias threeOnes noBias = .error (.inputSize noBias.shape threeOnes.shape) := by
  have hpairs := fullyConnected_readsRows threePairs threeOnes noBias 1 3 rfl rfl rfl (by decide) rfl
  have hone := fullyConnected_readsRows noBias threeOnes noBias 1 3 rfl rfl rfl (by decide) rfl
  exact ⟨hpairs.regrouped (by decide), hone.refused.mpr (by decide)⟩

/-- **An accepted input need not end in the width of the weight**: the rows of this one have two values. -/
theorem across_accepted :
    (threePairs.Consistent ∧ threeOnes.Consistent ∧ noBias.Consistent) ∧ threeOnes.shape.dims = [1, 3] ∧
      threePairs.shape.dims.getLast? ≠ some 3 ∧
      fullyConnected threePairs threeOnes noBias = .ok ⟨⟨[2, 1]⟩, [6, 15]⟩ :=
  ⟨⟨rfl, rfl, rfl⟩, rfl, by decide, rfl⟩

end Kernel

end Dataflow
