/-
The functions of the reference operators on shapes alone. When tensors hold as
many values as their shapes have elements, the shape of a result and every
error are decided by the shapes of the inputs (`fullyConnected_shape`,
`add_shape`), and a result holds as many values as its shape has elements.
-/
import Dataflow.Tensor.Kernel

namespace Dataflow

namespace Shape

theorem numel_cons (d : UInt64) (dims : List UInt64) : numel ⟨d :: dims⟩ = d.toNat * numel ⟨dims⟩ := rfl

theorem numel_append (dims others : List UInt64) : numel ⟨dims ++ others⟩ = numel ⟨dims⟩ * numel ⟨others⟩ := by
  induction dims with
  | nil => exact (Nat.one_mul _).symm
  | cons d dims ih => rw [List.cons_append, numel_cons, numel_cons, ih, Nat.mul_assoc]

/-- Counting in words wraps around. -/
theorem toNat_numelInWords (s : Shape) : s.numelInWords.toNat = s.numel % UInt64.size := by
  have hfrom (dims : List UInt64) (n : UInt64) :
      (dims.foldl (· * ·) n).toNat = n.toNat * numel ⟨dims⟩ % UInt64.size := by
    induction dims generalizing n with
    | nil => rw [List.foldl_nil, numel, List.foldr_nil, Nat.mul_one, Nat.mod_eq_of_lt n.toNat_lt]
    | cons d dims ih => rw [List.foldl_cons, ih, UInt64.toNat_mul, numel_cons, Nat.mod_mul_mod, Nat.mul_assoc]
  rw [numelInWords, hfrom]
  exact congrArg (· % UInt64.size) (Nat.one_mul _)

/-- **Counting in words is exact**, dimension by dimension, where it does not overflow. -/
theorem Countable.toNat_numelInWords {s : Shape} (h : s.Countable) {n : Nat} (hn : n ≤ s.rank) :
    (numelInWords ⟨s.dims.take n⟩).toNat = numel ⟨s.dims.take n⟩ := by
  rw [Shape.toNat_numelInWords, Nat.mod_eq_of_lt (h n hn)]

theorem numel_pos {s : Shape} (h : ∀ d ∈ s.dims, d ≠ 0) : 0 < s.numel := by
  obtain ⟨dims⟩ := s
  induction dims with
  | nil => exact Nat.one_pos
  | cons d dims ih =>
    obtain ⟨hd, hdims⟩ := List.forall_mem_cons.mp h
    have hpos : 0 < d.toNat := Nat.pos_of_ne_zero fun hzero => hd (UInt64.toNat_inj.mp hzero)
    exact Nat.mul_pos hpos (ih hdims)

/-- Unless a dimension is zero, only the product of all dimensions can be too large. -/
theorem countable_of_ne_zero {s : Shape} (hdims : ∀ d ∈ s.dims, d ≠ 0) (h : s.numel < UInt64.size) :
    s.Countable := by
  intro n _
  have hsplit : numel ⟨s.dims.take n⟩ * numel ⟨s.dims.drop n⟩ = s.numel := by
    rw [← numel_append, List.take_append_drop]
  have hrest : 0 < numel ⟨s.dims.drop n⟩ := numel_pos fun d hd => hdims d (List.mem_of_mem_drop hd)
  exact Nat.lt_of_le_of_lt (hsplit ▸ Nat.le_mul_of_pos_right _ hrest) h

-- The product is zero, but what comes before the zero does not fit a word.
example : numel ⟨[4294967296, 4294967296, 0]⟩ = 0 ∧ ¬ Countable ⟨[4294967296, 4294967296, 0]⟩ := by decide

end Shape

theorem Tensor.ofData_ok {shape : Shape} {data : List Float32} {t : Tensor} (h : ofData shape data = .ok t) :
    t = ⟨shape, data⟩ ∧ t.Consistent := by
  unfold ofData at h
  split at h
  next hlen => cases h; exact ⟨rfl, hlen.symm⟩
  next => cases h

theorem Tensor.ofData_shape (shape : Shape) (data : List Float32) :
    (ofData shape data).map Tensor.shape =
      if shape.numel = data.length then .ok shape else .error (.elementCount shape data.length) := by
  unfold ofData
  split <;> rfl

namespace Kernel

theorem length_rows (width count : Nat) (data : List Float32) : (rows width count data).length = count := by
  simp [rows]

theorem length_affine (m n k : Nat) (x w b : List Float32) : (affine m n k x w b).length = m * min n b.length := by
  simp only [affine, List.length_flatMap, List.length_map, List.length_zip, length_rows]
  rw [List.map_const', List.sum_replicate_nat, length_rows]

def fullyConnectedShape (x w b : Shape) : Except Failure Shape :=
  match w.dims with
  | [rowCount, width] =>
    if ¬ (0 < width.toNat ∧ x.numel % width.toNat = 0) then .error (.inputSize x w)
    else if b.numel ≠ rowCount.toNat then .error (.biasSize rowCount.toNat b)
    else
      let m := x.numel / width.toNat
      let out : Shape := ⟨[.ofNat m, rowCount]⟩
      if out.numel = m * rowCount.toNat then .ok out else .error (.elementCount out (m * rowCount.toNat))
  | _ => .error (.weightRank w)

def addShape (left right : Shape) : Except Failure Shape :=
  if left.numel = right.numel then .ok left else .error (.unequalSizes left right)

/-- **A fully connected layer is decided by shapes**: its shape and its errors. -/
theorem fullyConnected_shape {x w b : Tensor} (hx : x.Consistent) (hw : w.Consistent) (hb : b.Consistent) :
    (fullyConnected x w b).map Tensor.shape = fullyConnectedShape x.shape w.shape b.shape := by
  unfold Tensor.Consistent at hx hw hb
  unfold fullyConnected fullyConnectedShape
  rcases hdims : w.shape.dims with _ | ⟨rowCount, _ | ⟨width, _ | ⟨third, more⟩⟩⟩
  case cons.cons.nil =>
    have hweight : w.data.length = rowCount.toNat * width.toNat := by
      rw [hw]; simp [Shape.numel, hdims]
    simp only [hweight, ne_eq, not_true_eq_false, if_false, hx, hb]
    split
    · rfl
    split
    · rfl
    next hbias =>
      rw [Tensor.ofData_shape, length_affine, hb, Decidable.not_not.mp hbias, Nat.min_self]
  all_goals rfl

theorem fullyConnected_consistent {x w b t : Tensor} (h : fullyConnected x w b = .ok t) : t.Consistent := by
  unfold fullyConnected at h
  split at h
  · simp only at h
    split at h
    · cases h
    split at h
    · cases h
    split at h
    · cases h
    exact (Tensor.ofData_ok h).2
  · cases h

theorem add_shape {left right : Tensor} (hl : left.Consistent) (hr : right.Consistent) :
    (add left right).map Tensor.shape = addShape left.shape right.shape := by
  unfold Tensor.Consistent at hl hr
  unfold add addShape
  rw [hl, hr]
  split
  next h =>
    rw [Tensor.ofData_shape, List.length_zipWith, hl, hr, ← h, Nat.min_self, if_pos rfl]
  next => rfl

theorem add_consistent {left right t : Tensor} (h : add left right = .ok t) : t.Consistent := by
  unfold add at h
  split at h
  · exact (Tensor.ofData_ok h).2
  · cases h

theorem relu_consistent {x : Tensor} (h : x.Consistent) : (relu x).Consistent := by
  simpa [Tensor.Consistent, relu] using h

end Kernel

end Dataflow
