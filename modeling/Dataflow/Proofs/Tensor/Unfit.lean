/-
What the cost function makes of tensors that no fully connected layer takes.
Its checks are on the weight alone: a weight that is no matrix, or is one of
width zero, costs nothing, and no layer takes it. Tensors that are refused for
their input or their bias are charged all the same, for the whole rows of the
input and a bias that fits (`refused_cost`).
-/
import Dataflow.Cost
import Dataflow.Proofs.Tensor.Layer

namespace Dataflow.Kernel

section

variable {spec : OperatorSpec} {x w b : Tensor} {n k : UInt64}

theorem cost_of_dims (hdims : w.shape.dims = [n, k]) (hk : 0 < k.toNat) :
    Cost.fullyConnected spec [x.shape, w.shape, b.shape] =
      { flops := .ofNat (2 * (x.shape.numel / k.toNat) * k.toNat * n.toNat)
        bytesMoved := .ofNat (x.shape.numel / k.toNat * n.toNat * Cost.elementBytes)
        paramsBytes := .ofNat ((k.toNat * n.toNat + n.toNat) * Cost.elementBytes) } := by
  simp only [Cost.fullyConnected, hdims, Nat.pos_iff_ne_zero.mp hk, if_false]

/-- A weight that is no matrix, or is one of width zero, costs nothing. -/
theorem cost_of_unfit_weight (h : ∀ n k : UInt64, w.shape.dims = [n, k] → k.toNat = 0) :
    Cost.fullyConnected spec [x.shape, w.shape, b.shape] = {} := by
  rcases hdims : w.shape.dims with _ | ⟨n, _ | ⟨k, _ | ⟨third, more⟩⟩⟩
  case cons.cons.nil => simp only [Cost.fullyConnected, hdims, h n k hdims, if_true]
  all_goals simp only [Cost.fullyConnected, hdims]

theorem refused_of_unfit_weight (hx : x.Consistent) (hw : w.Consistent) (hb : b.Consistent)
    (h : ∀ n k : UInt64, w.shape.dims = [n, k] → k.toNat = 0) : ∃ e, fullyConnected x w b = .error e := by
  by_cases hdims : ∃ n k, w.shape.dims = [n, k]
  · obtain ⟨n, k, hdims⟩ := hdims
    have hrows : ¬ (0 < k.toNat ∧ k.toNat ∣ x.shape.numel) := fun hrows => absurd (h n k hdims) hrows.1.ne'
    rw [fullyConnected_of_dims hx hw hb hdims, if_pos hrows]
    exact ⟨_, rfl⟩
  · exact ⟨_, fullyConnected_rank hdims⟩

/-- A weight with rows is charged for its parameters, as far as a word counts their bytes. -/
theorem cost_eq_zero_iff (hdims : w.shape.dims = [n, k]) (hk : 0 < k.toNat)
    (hparams : (k.toNat * n.toNat + n.toNat) * Cost.elementBytes < 2 ^ 64) :
    Cost.fullyConnected spec [x.shape, w.shape, b.shape] = {} ↔ n.toNat = 0 := by
  rw [cost_of_dims hdims hk]
  constructor
  · intro h
    have hzero := congrArg UInt64.toNat (congrArg Cost.paramsBytes h)
    rw [UInt64.toNat_ofNat_of_lt' hparams] at hzero
    change (k.toNat * n.toNat + n.toNat) * 4 = 0 at hzero
    omega
  · intro hn
    simp only [hn, Nat.mul_zero, Nat.zero_mul, Nat.add_zero]
    rfl

end

/-- What is known of the cost of tensors as against a layer that would take them. -/
structure RefusedCost (spec : OperatorSpec) (x w b : Tensor) : Prop where
  weight : (∀ n k : UInt64, w.shape.dims = [n, k] → k.toNat = 0) →
    (∃ e, fullyConnected x w b = .error e) ∧ Cost.fullyConnected spec [x.shape, w.shape, b.shape] = {}
  /-- Tensors that are refused cost something exactly when the weight has rows of some width and it is the
  input that does not fill whole rows of them or the bias that has another number of elements. -/
  charged : ((∃ e, fullyConnected x w b = .error e) ∧ Cost.fullyConnected spec [x.shape, w.shape, b.shape] ≠ {}) ↔
    ∃ n k : UInt64, w.shape.dims = [n, k] ∧ 0 < n.toNat ∧ 0 < k.toNat ∧
      (¬ k.toNat ∣ x.shape.numel ∨ b.shape.numel ≠ n.toNat)
  amount : ∀ (n k : UInt64) (x' b' : Tensor), w.shape.dims = [n, k] → 0 < k.toNat → x'.Consistent → b'.Consistent →
    x'.shape.numel = x.shape.numel / k.toNat * k.toNat → b'.shape.numel = n.toNat →
    (∃ y, fullyConnected x' w b' = .ok y) ∧
      Cost.fullyConnected spec [x.shape, w.shape, b.shape] = Cost.fullyConnected spec [x'.shape, w.shape, b'.shape]

/-- **What tensors cost that a fully connected layer refuses.** The tensors hold as many values as their shapes
have elements, and words count the values of the input and the bytes of the parameters. -/
theorem refused_cost (spec : OperatorSpec) (x w b : Tensor) (hx : x.Consistent) (hw : w.Consistent)
    (hb : b.Consistent) (hword : x.data.length < 2 ^ 64)
    (hparams : ∀ n k : UInt64, w.shape.dims = [n, k] → (k.toNat * n.toNat + n.toNat) * Cost.elementBytes < 2 ^ 64) :
    RefusedCost spec x w b where
  weight h := ⟨refused_of_unfit_weight hx hw hb h, cost_of_unfit_weight h⟩
  charged := by
    constructor
    · rintro ⟨⟨e, hrefused⟩, hcost⟩
      obtain ⟨n, k, hdims, hk⟩ : ∃ n k : UInt64, w.shape.dims = [n, k] ∧ k.toNat ≠ 0 := by
        by_contra hnone
        push Not at hnone
        exact hcost (cost_of_unfit_weight hnone)
      have hpos := Nat.pos_of_ne_zero hk
      have hn := mt (cost_eq_zero_iff hdims hpos (hparams n k hdims)).mpr hcost
      refine ⟨n, k, hdims, Nat.pos_of_ne_zero hn, hpos, ?_⟩
      by_contra hfits
      push Not at hfits
      rw [fullyConnected_ok hx hw hb hword hdims ⟨hpos, hfits.1⟩ hfits.2] at hrefused
      cases hrefused
    · rintro ⟨n, k, hdims, hn, hk, hunfit⟩
      refine ⟨?_, mt (cost_eq_zero_iff hdims hk (hparams n k hdims)).mp hn.ne'⟩
      rw [fullyConnected_of_dims hx hw hb hdims]
      by_cases hrows : 0 < k.toNat ∧ k.toNat ∣ x.shape.numel
      · rw [if_neg (not_not_intro hrows), if_pos (hunfit.resolve_left (not_not_intro hrows.2))]
        exact ⟨_, rfl⟩
      · rw [if_pos hrows]
        exact ⟨_, rfl⟩
  amount n k x' b' hdims hk hx' hb' hinput hbias := by
    have hrows : 0 < k.toNat ∧ k.toNat ∣ x'.shape.numel := ⟨hk, hinput ▸ Nat.dvd_mul_left ..⟩
    have hword' : x'.data.length < 2 ^ 64 := by
      rw [hx', hinput]
      exact Nat.lt_of_le_of_lt (Nat.div_mul_le_self ..) (hx ▸ hword)
    refine ⟨⟨_, fullyConnected_ok hx' hw hb' hword' hdims hrows hbias⟩, ?_⟩
    rw [cost_of_dims hdims hk, cost_of_dims hdims hk, hinput, Nat.mul_div_cancel _ hk]

def threeValues : Tensor := ⟨⟨[1, 3]⟩, [1, 2, 3]⟩

def twoByTwo : Tensor := ⟨⟨[2, 2]⟩, [1, 0, 0, 1]⟩

def twoZeros : Tensor := ⟨⟨[2]⟩, [0, 0]⟩

/-- Three values are refused and charged as the first two of them are. -/
theorem refused_cost_short :
    ((∃ e, fullyConnected threeValues twoByTwo twoZeros = .error e) ∧
        Cost.fullyConnected { opType := "FC" } [threeValues.shape, twoByTwo.shape, twoZeros.shape] ≠ {}) ∧
      Cost.fullyConnected { opType := "FC" } [threeValues.shape, twoByTwo.shape, twoZeros.shape] =
        Cost.fullyConnected { opType := "FC" } [twoZeros.shape, twoByTwo.shape, twoZeros.shape] := by
  have hparams : ∀ n k : UInt64, twoByTwo.shape.dims = [n, k] →
      (k.toNat * n.toNat + n.toNat) * Cost.elementBytes < 2 ^ 64 := by
    rintro n k hdims
    cases hdims
    decide
  have hcost := refused_cost { opType := "FC" } threeValues twoByTwo twoZeros rfl rfl rfl (by decide) hparams
  exact ⟨hcost.charged.mpr ⟨2, 2, rfl, by decide, by decide, .inl (by decide)⟩,
    (hcost.amount 2 2 twoZeros twoZeros rfl (by decide) rfl rfl (by decide) (by decide)).2⟩

/-- **Tensors that are refused need not cost nothing**: these ones are refused for their input. -/
theorem short_charged :
    (threeValues.Consistent ∧ twoByTwo.Consistent ∧ twoZeros.Consistent) ∧
      fullyConnected threeValues twoByTwo twoZeros = .error (.inputSize ⟨[1, 3]⟩ ⟨[2, 2]⟩) ∧
      Cost.fullyConnected { opType := "FC" } [⟨[1, 3]⟩, ⟨[2, 2]⟩, ⟨[2]⟩] = ⟨8, 8, 24⟩ :=
  ⟨⟨rfl, rfl, rfl⟩, rfl, by decide⟩

end Dataflow.Kernel
