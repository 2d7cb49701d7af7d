/-
What a fully connected layer computes, value by value (`fullyConnected_computes`).
The result lies in rows of as many values as the weight has rows. Each value is
the sum of the products of a row of the input with a row of the weight, from
left to right, plus the bias of that column (`affine_getElem?`). Which tensors
are accepted, and which of the checks is reported, is decided by the shape of the
weight and by the numbers of elements alone.
-/
import Dataflow.Proofs.Tensor.Bounds
import Dataflow.Proofs.Tensor.Shapes
import Mathlib.Tactic.Ring

namespace Dataflow.Kernel

/-- The products of the row of `x` at an index with the row of `w` at an index, from left to right, none
when a value is out of range. -/
def products? (k : Nat) (x w : List Float32) (r c : Nat) : Option (List Float32) :=
  (List.range k).mapM fun j => do return (← x[r * k + j]?) * (← w[c * k + j]?)

/-- The sum of these products from left to right, which starts from minus zero, plus the bias of the
column. -/
def outputAt? (k : Nat) (x w b : List Float32) (r c : Nat) : Option Float32 := do
  return (← products? k x w r c).foldl (· + ·) (-0.0) + (← b[c]?)

theorem row_getElem? {k j : Nat} (hj : j < k) (data : List Float32) (r : Nat) :
    (row k data r)[j]? = data[r * k + j]? := by
  rw [row, List.getElem?_take_of_lt hj, List.getElem?_drop]

theorem length_row {k count r : Nat} {data : List Float32} (hdata : data.length = count * k) (hr : r < count) :
    (row k data r).length = k := by
  have hstop : (r + 1) * k ≤ count * k := Nat.mul_le_mul_right k hr
  rw [row, List.length_take, List.length_drop, hdata]
  rw [Nat.succ_mul] at hstop
  omega

theorem products?_eq {m n k r c : Nat} {x w : List Float32} (hx : x.length = m * k) (hw : w.length = n * k)
    (hr : r < m) (hc : c < n) : products? k x w r c = some (List.zipWith (· * ·) (row k x r) (row k w c)) := by
  have hxs := length_row hx hr
  have hws := length_row hw hc
  have hproduct : ∀ j ∈ List.range k, (do return (← x[r * k + j]?) * (← w[c * k + j]?) : Option Float32) =
      some ((row k x r)[j]?.getD 0 * (row k w c)[j]?.getD 0) := by
    intro j hj
    have hlt : j < k := List.mem_range.mp hj
    rw [← row_getElem? hlt x r, ← row_getElem? hlt w c, List.getElem?_eq_getElem (hxs.symm ▸ hlt),
      List.getElem?_eq_getElem (hws.symm ▸ hlt)]
    rfl
  rw [products?, mapM_eq_some hproduct]
  congr 1
  refine List.ext_getElem (by simp [hxs, hws]) fun j hj _ => ?_
  have hlt : j < k := by simpa using hj
  simp [hxs, hws, hlt]

theorem outputAt?_eq {m n k r c : Nat} {x w b : List Float32} (hx : x.length = m * k) (hw : w.length = n * k)
    (hr : r < m) (hc : c < n) (hb : c < b.length) :
    outputAt? k x w b r c = some (dot (row k x r) (row k w c) + b[c]) := by
  rw [outputAt?, products?_eq hx hw hr hc, List.getElem?_eq_getElem hb]
  rfl

/-- Lists of one length behind each other: the index of an item tells its list and its place there. -/
theorem flatMap_getElem? {α β : Type} {items : List α} {f : α → List β} {width : Nat}
    (hwidth : ∀ item, (f item).length = width) {r c : Nat} (hr : r < items.length) (hc : c < width) :
    (items.flatMap f)[r * width + c]? = (f items[r])[c]? := by
  induction items generalizing r with
  | nil => cases hr
  | cons item rest ih =>
    rw [List.flatMap_cons]
    cases r with
    | zero => rw [Nat.zero_mul, Nat.zero_add, List.getElem?_append_left (hwidth item ▸ hc), List.getElem_cons_zero]
    | succ r =>
      have hindex : (r + 1) * width + c = (f item).length + (r * width + c) := by rw [hwidth]; ring
      rw [hindex, List.getElem?_append_right (Nat.le_add_right ..), Nat.add_sub_cancel_left, List.getElem_cons_succ]
      exact ih (Nat.lt_of_succ_lt_succ hr)

/-- **Row by row, column by column**: the value at `r * n + c` is that of the row `r` and the column `c`. -/
theorem affine_getElem? {m n k r c : Nat} {x w b : List Float32} (hx : x.length = m * k) (hw : w.length = n * k)
    (hb : b.length = n) (hr : r < m) (hc : c < n) : (affine m n k x w b)[r * n + c]? = outputAt? k x w b r c := by
  have hlength : r < (rows k m x).length := by rwa [length_rows]
  have hrow : (rows k m x)[r] = row k x r := by simp [rows]
  have hcolumn : c < b.length := hb ▸ hc
  rw [affine, outputAt?_eq hx hw hr hc hcolumn]
  refine (flatMap_getElem? (fun xs => ?_) hlength hc).trans ?_
  · rw [List.length_map, List.length_zip, length_rows, hb, Nat.min_self]
  · rw [hrow]
    simp [rows, hc, hcolumn]

/-- What it means that a fully connected layer computes `x` times the transpose of `w`, plus `b`. -/
structure ComputesLayer (x w b : Tensor) : Prop where
  /-- The layer succeeds exactly when the weight has two dimensions `[n, k]`, `k` is not zero and divides the number
  of elements of the input, and the bias has `n` elements, whatever its rank. -/
  accepted : (∃ y, fullyConnected x w b = .ok y) ↔
    ∃ n k : UInt64, w.shape.dims = [n, k] ∧ 0 < k.toNat ∧ k.toNat ∣ x.shape.numel ∧ b.shape.numel = n.toNat
  /-- The result has the shape `[m, n]`, where the input has `m` rows of `k` elements, and each of its values
  is that of its row and its column. -/
  computed : ∀ (y : Tensor) (n k : UInt64), fullyConnected x w b = .ok y → w.shape.dims = [n, k] →
    ∃ m : UInt64, m.toNat = x.shape.numel / k.toNat ∧ y.shape.dims = [m, n] ∧
      y.data.length = m.toNat * n.toNat ∧
      ∀ r < m.toNat, ∀ c < n.toNat, ∃ value, outputAt? k.toNat x.data w.data b.data r c = some value ∧
        y.data[r * n.toNat + c]? = some value
  rank : (¬ ∃ n k, w.shape.dims = [n, k]) → fullyConnected x w b = .error (.weightRank w.shape)
  input : ∀ n k : UInt64, w.shape.dims = [n, k] → ¬ (0 < k.toNat ∧ k.toNat ∣ x.shape.numel) →
    fullyConnected x w b = .error (.inputSize x.shape w.shape)
  bias : ∀ n k : UInt64, w.shape.dims = [n, k] → 0 < k.toNat ∧ k.toNat ∣ x.shape.numel →
    b.shape.numel ≠ n.toNat → fullyConnected x w b = .error (.biasSize n.toNat b.shape)

section Layer

variable {x w b : Tensor} {n k : UInt64}

theorem fullyConnected_rank (hdims : ¬ ∃ n k, w.shape.dims = [n, k]) :
    fullyConnected x w b = .error (.weightRank w.shape) := by
  unfold fullyConnected
  split
  next n k h => exact absurd ⟨n, k, h⟩ hdims
  next => rfl

theorem weight_length (hw : w.Consistent) (hdims : w.shape.dims = [n, k]) : w.data.length = n.toNat * k.toNat := by
  rw [Tensor.Consistent] at hw
  rw [hw]
  simp [Shape.numel, hdims]

theorem fullyConnected_of_dims (hx : x.Consistent) (hw : w.Consistent) (hb : b.Consistent)
    (hdims : w.shape.dims = [n, k]) :
    fullyConnected x w b =
      if ¬ (0 < k.toNat ∧ k.toNat ∣ x.shape.numel) then .error (.inputSize x.shape w.shape)
      else if b.shape.numel ≠ n.toNat then .error (.biasSize n.toNat b.shape)
      else Tensor.ofData ⟨[.ofNat (x.shape.numel / k.toNat), n]⟩
        (affine (x.shape.numel / k.toNat) n.toNat k.toNat x.data w.data b.data) := by
  have hweight := weight_length hw hdims
  unfold Tensor.Consistent at hx hb
  simp only [fullyConnected, hdims, hweight, hx, hb, ne_eq, not_true_eq_false, if_false, Nat.dvd_iff_mod_eq_zero]

theorem accepts_of_ok (hx : x.Consistent) (hw : w.Consistent) (hb : b.Consistent) (hdims : w.shape.dims = [n, k])
    {y : Tensor} (hy : fullyConnected x w b = .ok y) :
    (0 < k.toNat ∧ k.toNat ∣ x.shape.numel) ∧ b.shape.numel = n.toNat := by
  rw [fullyConnected_of_dims hx hw hb hdims] at hy
  split at hy
  · cases hy
  next hinput =>
    split at hy
    · cases hy
    next hbias => exact ⟨Decidable.not_not.mp hinput, Decidable.not_not.mp hbias⟩

theorem fullyConnected_ok (hx : x.Consistent) (hw : w.Consistent) (hb : b.Consistent) (hword : x.data.length < 2 ^ 64)
    (hdims : w.shape.dims = [n, k]) (hinput : 0 < k.toNat ∧ k.toNat ∣ x.shape.numel) (hbias : b.shape.numel = n.toNat) :
    fullyConnected x w b = .ok ⟨⟨[.ofNat (x.shape.numel / k.toNat), n]⟩,
      affine (x.shape.numel / k.toNat) n.toNat k.toNat x.data w.data b.data⟩ := by
  have hrows : (UInt64.ofNat (x.shape.numel / k.toNat)).toNat = x.shape.numel / k.toNat :=
    UInt64.toNat_ofNat_of_lt' (Nat.lt_of_le_of_lt (Nat.div_le_self ..) (hx ▸ hword))
  have hcount : (Shape.mk [.ofNat (x.shape.numel / k.toNat), n]).numel =
      (affine (x.shape.numel / k.toNat) n.toNat k.toNat x.data w.data b.data).length := by
    rw [length_affine, hb, hbias, Nat.min_self]
    change (UInt64.ofNat _).toNat * (n.toNat * 1) = _
    rw [hrows, Nat.mul_one]
  rw [fullyConnected_of_dims hx hw hb hdims, if_neg (not_not_intro hinput), if_neg (not_not_intro hbias),
    Tensor.ofData, if_pos hcount]

end Layer

/-- **A fully connected layer computes the product of the input with the transpose of the weight, plus the
bias**, and accepts exactly the tensors that its checks describe. The tensors hold as many values as their
shapes have elements, and the values of the input are counted by a word. -/
theorem fullyConnected_computes (x w b : Tensor) (hx : x.Consistent) (hw : w.Consistent) (hb : b.Consistent)
    (hword : x.data.length < 2 ^ 64) : ComputesLayer x w b where
  accepted := by
    constructor
    · rintro ⟨y, hy⟩
      by_cases hdims : ∃ n k, w.shape.dims = [n, k]
      case neg => rw [fullyConnected_rank hdims] at hy; cases hy
      obtain ⟨n, k, hdims⟩ := hdims
      obtain ⟨⟨hpos, hdvd⟩, hbias⟩ := accepts_of_ok hx hw hb hdims hy
      exact ⟨n, k, hdims, hpos, hdvd, hbias⟩
    · rintro ⟨n, k, hdims, hpos, hdvd, hbias⟩
      exact ⟨_, fullyConnected_ok hx hw hb hword hdims ⟨hpos, hdvd⟩ hbias⟩
  computed y n k hy hdims := by
    obtain ⟨hinput, hbias⟩ := accepts_of_ok hx hw hb hdims hy
    rw [fullyConnected_ok hx hw hb hword hdims hinput hbias] at hy
    cases hy
    have hrows : (UInt64.ofNat (x.shape.numel / k.toNat)).toNat = x.shape.numel / k.toNat :=
      UInt64.toNat_ofNat_of_lt' (Nat.lt_of_le_of_lt (Nat.div_le_self ..) (hx ▸ hword))
    have hbias' : b.data.length = n.toNat := hb.trans hbias
    have hx' : x.data.length = x.shape.numel / k.toNat * k.toNat := hx.trans (Nat.div_mul_cancel hinput.2).symm
    refine ⟨_, hrows, rfl, ?_, fun r hr c hc => ?_⟩
    · rw [hrows, length_affine, hbias', Nat.min_self]
    · rw [hrows] at hr
      have houtput := outputAt?_eq hx' (weight_length hw hdims) hr hc (hbias' ▸ hc)
      exact ⟨_, houtput, (affine_getElem? hx' (weight_length hw hdims) hbias' hr hc).trans houtput⟩
  rank := fullyConnected_rank
  input n k hdims hinput := by rw [fullyConnected_of_dims hx hw hb hdims, if_pos hinput]
  bias n k hdims hinput hbias := by
    rw [fullyConnected_of_dims hx hw hb hdims, if_neg (not_not_intro hinput), if_pos hbias]

/-- Four rows of two values each, in a shape of three dimensions, and a bias of two dimensions. -/
theorem fullyConnected_computes_batch :
    let x : Tensor := ⟨⟨[2, 2, 2]⟩, [1, 2, 3, 4, 5, 6, 7, 8]⟩
    let w : Tensor := ⟨⟨[3, 2]⟩, [1, 0, 0, 1, 1, 1]⟩
    let b : Tensor := ⟨⟨[3, 1]⟩, [10, 20, 30]⟩
    (x.Consistent ∧ w.Consistent ∧ b.Consistent ∧ x.data.length < 2 ^ 64) ∧
      (∃ y, fullyConnected x w b = .ok y ∧ y.shape.dims = [4, 3] ∧
        y.data[3 * 3 + 2]? = some (-0.0 + 7 * 1 + 8 * 1 + 30 : Float32)) ∧
      fullyConnected x w x = .error (.biasSize 3 x.shape) := by
  intro x w b
  have hword : x.data.length < 2 ^ 64 := by decide
  have hlayer := fullyConnected_computes x w b rfl rfl rfl hword
  obtain ⟨y, hy⟩ := hlayer.accepted.mpr ⟨3, 2, rfl, by decide, by decide, rfl⟩
  obtain ⟨m, hm, hdims, -, hvalues⟩ := hlayer.computed y 3 2 hy rfl
  have hrows : x.shape.numel / UInt64.toNat 2 = UInt64.toNat 4 := by decide
  obtain rfl : m = 4 := UInt64.toNat_inj.mp (hm.trans hrows)
  obtain ⟨value, houtput, hvalue⟩ := hvalues 3 (by decide) 2 (by decide)
  refine ⟨⟨rfl, rfl, rfl, hword⟩, ⟨y, hy, hdims, hvalue.trans (houtput.symm.trans rfl)⟩, ?_⟩
  exact (fullyConnected_computes x w x rfl rfl rfl hword).bias 3 2 rfl (by decide) (by decide)

end Dataflow.Kernel
