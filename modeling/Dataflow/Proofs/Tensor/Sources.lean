/-
Where tensors come from: they are made of a shape and values, filled with zeros
or pseudorandom numbers, or read from JSON. Every tensor that is obtained in one
of these ways holds as many values as its shape has elements
(`Tensor.Obtained.consistent`).
-/
import Dataflow.Proofs.Tensor.Shapes

namespace Dataflow

open Json

namespace Json.Record

variable {δ α : Type}

theorem inBracket_ok {room : Nat} {read : Nat → Except ReadError α} {a : α} (h : inBracket room read = .ok a) :
    ∃ inner, read inner = .ok a := by
  cases room with
  | zero => cases h
  | succ inner => exact ⟨inner, h⟩

/-- Whichever of its forms a record is read in, its value is built from a draft. -/
theorem build_of_reader {r : Record δ α} {room : Nat} {d : Doc} {a : α} (h : r.reader room d = .ok a) :
    ∃ draft, r.build draft = .ok a := by
  cases d with
  | object members ending =>
    obtain ⟨inner, h⟩ := inBracket_ok h
    cases hdraft : readMembers r.fields inner members r.blank with
    | error e => rw [hdraft] at h; cases h
    | ok draft =>
      rw [hdraft] at h
      cases hend : ending.asObject with
      | error e => rw [hend] at h; cases h
      | ok _ => rw [hend] at h; exact ⟨draft, h⟩
  | list items ending =>
    obtain ⟨inner, h⟩ := inBracket_ok h
    cases hdraft : readItems inner (.wrongLength · r.fieldCount) r.fields 0 items ending r.blank with
    | error e => rw [hdraft] at h; cases h
    | ok draft => rw [hdraft] at h; exact ⟨draft, h⟩
  | null => cases h
  | bool b => cases h
  | number n => cases h
  | text s => cases h
  | broken fault => cases h

end Json.Record

namespace Tensor

/-- A tensor that is made, filled or read. -/
inductive Obtained : Tensor → Prop
  | made (shape : Shape) (data : List Float32) {t : Tensor} (h : ofData shape data = .ok t) : Obtained t
  | zeroed (shape : Shape) {t : Tensor} (h : zeros shape = .ok t) : Obtained t
  | drawn (generator : Generator) (shape : Shape) (seed : UInt64) {t : Tensor}
    (h : random generator shape seed = .ok t) : Obtained t
  /-- read from a text of its own -/
  | decoded (text : String) {t : Tensor} (h : reader.decode text = .ok t) : Obtained t
  /-- read as a part of a larger value -/
  | read (room : Nat) (d : Doc) {t : Tensor} (h : reader room d = .ok t) : Obtained t

theorem fill_consistent {shape : Shape} {values : Nat → List Float32} {t : Tensor}
    (hvalues : ∀ n, (values n).length = n) (h : fill shape values = .ok t) : t.Consistent := by
  unfold fill at h
  split at h
  · cases h
    exact hvalues shape.numel
  · cases h

theorem random_consistent {generator : Generator} {shape : Shape} {seed : UInt64} {t : Tensor}
    (h : random generator shape seed = .ok t) : t.Consistent :=
  fill_consistent (fun _ => (List.length_map _).trans List.length_range) h

theorem random_inRange {generator : Generator} {shape : Shape} {seed : UInt64} {t : Tensor}
    (h : random generator shape seed = .ok t) : ∀ x ∈ t.data, -1 ≤ x ∧ x < 1 := by
  unfold random fill at h
  split at h
  · cases h
    simpa using fun n _ => generator.inRange seed n
  · cases h

theorem reader_consistent {room : Nat} {d : Doc} {t : Tensor} (h : reader room d = .ok t) : t.Consistent := by
  obtain ⟨draft, hbuild⟩ := Record.build_of_reader h
  obtain ⟨_ | shape, _ | data⟩ := draft
  case some.some =>
    change (ofData shape data).mapError (fun e => ReadError.refused e.message) = .ok t at hbuild
    cases hdata : ofData shape data with
    | error e => rw [hdata] at hbuild; cases hbuild
    | ok u => rw [hdata] at hbuild; cases hbuild; exact (ofData_ok hdata).2
  all_goals cases hbuild

theorem decode_consistent {text : String} {t : Tensor} (h : reader.decode text = .ok t) : t.Consistent := by
  unfold Reader.decode at h
  cases hread : reader 127 (Reading.ofText text).root with
  | error e => simp only [hread] at h; cases h
  | ok u =>
    simp only [hread] at h
    cases hleft : (Reading.ofText text).leftover with
    | true => simp only [hleft] at h; cases h
    | false => simp only [hleft] at h; cases h; exact reader_consistent hread

/-- **Every tensor that is obtained is consistent.** -/
theorem Obtained.consistent {t : Tensor} (h : t.Obtained) : t.Consistent := by
  cases h with
  | made _ _ h => exact (ofData_ok h).2
  | zeroed _ h => exact fill_consistent (fun _ => List.length_replicate) h
  | drawn _ _ _ h => exact random_consistent h
  | decoded _ h => exact decode_consistent h
  | read _ _ h => exact reader_consistent h

end Tensor

end Dataflow
