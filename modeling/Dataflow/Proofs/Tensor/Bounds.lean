/-
The accesses of a fully connected layer to the values of its tensors. A row
that reaches past the end of the values is cut short by `Kernel.row`; here every
access is checked instead (`fullyConnected?`), and none is ever out of range
(`fullyConnected?_eq`): the checks on the numbers of values come before the rows
are taken.
-/
import Dataflow.Tensor.Kernel

namespace Dataflow.Kernel

/-- The values from one index up to another, none when they reach past the end. -/
def slice? (start stop : Nat) (data : List Float32) : Option (List Float32) :=
  if start ≤ stop ∧ stop ≤ data.length then some ((data.drop start).take (stop - start)) else none

def column? (k : Nat) (w b xs : List Float32) (col : Nat) : Option Float32 := do
  let ws ← slice? (col * k) ((col + 1) * k) w
  let bias ← b[col]?
  return dot xs ws + bias

def columns? (n k : Nat) (x w b : List Float32) (row : Nat) : Option (List Float32) := do
  let xs ← slice? (row * k) ((row + 1) * k) x
  (List.range n).mapM (column? k w b xs)

def affine? (m n k : Nat) (x w b : List Float32) : Option (List Float32) :=
  ((List.range m).mapM (columns? n k x w b)).map List.flatten

/-- A fully connected layer with the same checks in the same order, none when an access to the values is
out of range. -/
def fullyConnected? (x w b : Tensor) : Option (Except Failure Tensor) :=
  match w.shape.dims with
  | [rowCount, width] =>
    let n := rowCount.toNat
    let k := width.toNat
    if w.data.length ≠ n * k then some (.error (.weightSize w.shape w.data.length))
    else if ¬ (0 < k ∧ x.data.length % k = 0) then some (.error (.inputSize x.shape w.shape))
    else if b.data.length ≠ n then some (.error (.biasSize n b.shape))
    else
      let m := x.data.length / k
      (affine? m n k x.data w.data b.data).map (Tensor.ofData ⟨[.ofNat m, rowCount]⟩)
  | _ => some (.error (.weightRank w.shape))

theorem slice?_row {width count index : Nat} {data : List Float32} (hdata : data.length = count * width)
    (hindex : index < count) : slice? (index * width) ((index + 1) * width) data = some (row width data index) := by
  have hstart : index * width ≤ (index + 1) * width := Nat.mul_le_mul_right width (Nat.le_succ index)
  have hstop : (index + 1) * width ≤ data.length := hdata ▸ Nat.mul_le_mul_right width hindex
  rw [slice?, if_pos ⟨hstart, hstop⟩, row, Nat.succ_mul, Nat.add_sub_cancel_left]

-- The second of two rows of two, when only three values are there.
example : slice? (1 * 2) (2 * 2) [1, 2, 3] = none := rfl

theorem mapM_eq_some {α β : Type} {f : α → Option β} {g : α → β} {items : List α}
    (h : ∀ item ∈ items, f item = some (g item)) : items.mapM f = some (items.map g) := by
  induction items with
  | nil => rfl
  | cons item rest ih =>
    obtain ⟨hitem, hrest⟩ := List.forall_mem_cons.mp h
    rw [List.mapM_cons, hitem, ih hrest]
    rfl

theorem mapM_column? {n k : Nat} {w b : List Float32} (hw : w.length = n * k) (hb : b.length = n)
    (xs : List Float32) :
    (List.range n).mapM (column? k w b xs) = some (((rows k n w).zip b).map fun (ws, bias) => dot xs ws + bias) := by
  have hcolumn : ∀ col ∈ List.range n,
      column? k w b xs col = some (dot xs (row k w col) + b[col]?.getD 0) := by
    intro col hcol
    have hlt : col < b.length := hb ▸ List.mem_range.mp hcol
    rw [column?, slice?_row hw (List.mem_range.mp hcol), List.getElem?_eq_getElem hlt]
    rfl
  rw [mapM_eq_some hcolumn]
  congr 1
  refine List.ext_getElem (by simp [rows, hb]) fun i hi _ => ?_
  have hlt : i < b.length := by simpa [hb] using hi
  simp [rows, List.getElem?_eq_getElem hlt]

/-- With as many values as the rows need, no access is out of range. -/
theorem affine?_eq {m n k : Nat} {x w b : List Float32} (hx : x.length = m * k) (hw : w.length = n * k)
    (hb : b.length = n) : affine? m n k x w b = some (affine m n k x w b) := by
  have hrow : ∀ index ∈ List.range m, columns? n k x w b index =
      some (((rows k n w).zip b).map fun (ws, bias) => dot (row k x index) ws + bias) := by
    intro index hindex
    rw [columns?, slice?_row hx (List.mem_range.mp hindex)]
    exact mapM_column? hw hb _
  rw [affine?, mapM_eq_some hrow, Option.map_some, affine, List.flatMap_def]
  simp only [rows, List.map_map]
  rfl

/-- **No access of a fully connected layer to its values is out of range**, whatever its tensors are. -/
theorem fullyConnected?_eq (x w b : Tensor) : fullyConnected? x w b = some (fullyConnected x w b) := by
  unfold fullyConnected? fullyConnected
  rcases w.shape.dims with _ | ⟨rowCount, _ | ⟨width, _ | ⟨third, more⟩⟩⟩
  case cons.cons.nil =>
    simp only
    by_cases hw : w.data.length = rowCount.toNat * width.toNat
    case neg => rw [if_pos hw, if_pos hw]
    rw [if_neg (not_not_intro hw), if_neg (not_not_intro hw)]
    by_cases hx : 0 < width.toNat ∧ x.data.length % width.toNat = 0
    case neg => rw [if_pos hx, if_pos hx]
    rw [if_neg (not_not_intro hx), if_neg (not_not_intro hx)]
    by_cases hb : b.data.length = rowCount.toNat
    case neg => rw [if_pos hb, if_pos hb]
    rw [if_neg (not_not_intro hb), if_neg (not_not_intro hb)]
    have hrows : x.data.length = x.data.length / width.toNat * width.toNat :=
      (Nat.div_mul_cancel (Nat.dvd_of_mod_eq_zero hx.2)).symm
    rw [affine?_eq hrows hw hb, Option.map_some]
  all_goals rfl

end Dataflow.Kernel
