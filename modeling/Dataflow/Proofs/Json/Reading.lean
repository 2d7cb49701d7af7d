/-
Readers of what has been written. A list, a map or a record that is written from
parts is read part by part: where every part gives a value or one and the same
fault (`given`), so does the whole.
-/
import Dataflow.Json.Record
import Dataflow.Proofs.Json.Assembly
import Dataflow.Proofs.NameMap
import Mathlib.Data.List.Forall2

namespace Dataflow.Json

open Numeric

variable {α β δ : Type}

/-- A value where it can be had, a fault otherwise. -/
def given (fault : ReadError) (sound : Bool) (value : α) : Except ReadError α :=
  if sound then .ok value else .error fault

@[simp] theorem given_true (fault : ReadError) (value : α) : given fault true value = .ok value := rfl

@[simp] theorem given_false (fault : ReadError) (value : α) : given fault false value = .error fault := rfl

theorem mapM_given {fault : ReadError} {f : α → Except ReadError β} {sound : α → Bool} {g : α → β} {xs : List α}
    (h : ∀ x ∈ xs, f x = given fault (sound x) (g x)) : xs.mapM f = given fault (xs.all sound) (xs.map g) := by
  induction xs with
  | nil => rfl
  | cons x xs ih =>
    obtain ⟨hx, hxs⟩ := List.forall_mem_cons.mp h
    rw [List.mapM_cons, hx, ih hxs, List.all_cons, List.map_cons]
    cases sound x with
    | false => rfl
    | true => cases xs.all sound <;> rfl

/-- Values are had of a list exactly when one is had of each of its items. -/
theorem mapM_ok_iff {ε : Type} {f : α → Except ε β} {xs : List α} {ys : List β} :
    xs.mapM f = .ok ys ↔ List.Forall₂ (fun y x => f x = .ok y) ys xs := by
  induction xs generalizing ys with
  | nil =>
    rw [List.mapM_nil, List.forall₂_nil_right_iff]
    exact ⟨fun h => (Except.ok.inj h).symm, fun h => h ▸ rfl⟩
  | cons x xs ih =>
    rw [List.mapM_cons, List.forall₂_cons_right_iff]
    cases hx : f x with
    | error e => exact iff_of_false nofun fun ⟨_, _, hy, _⟩ => by cases hy
    | ok y =>
      cases hxs : xs.mapM f with
      | error e =>
        refine iff_of_false nofun fun ⟨_, ys', _, hys, _⟩ => ?_
        rw [ih.mpr hys] at hxs
        cases hxs
      | ok ys' =>
        refine ⟨fun h => ⟨y, ys', rfl, ih.mp hxs, (Except.ok.inj h).symm⟩, ?_⟩
        rintro ⟨_, _, hy, hys, rfl⟩
        rw [ih.mpr hys] at hxs
        cases hy
        cases hxs
        rfl

namespace Reader

/-! ## Lists and maps -/

theorem list_given {fault : ReadError} {read : Reader β} {room : Nat} {write : α → Json} {sound : α → Bool}
    {g : α → β} {xs : List α} (h : ∀ x ∈ xs, read room (toDoc (write x)) = given fault (sound x) (g x)) :
    list read (room + 1) (toDoc (.list (xs.map write))) = given fault (xs.all sound) (xs.map g) := by
  have hitems : (itemDocs (xs.map write)).mapM (read room) = given fault (xs.all sound) (xs.map g) := by
    rw [itemDocs_eq_map, List.map_map, List.mapM_map]
    exact mapM_given h
  simp only [toDoc, list, inBracket, hitems]
  cases xs.all sound <;> rfl

theorem list_ok {read : Reader α} {room : Nat} {write : α → Json} {xs : List α}
    (h : ∀ x ∈ xs, read room (toDoc (write x)) = .ok x) :
    list read (room + 1) (toDoc (.list (xs.map write))) = .ok xs := by
  have hgiven := @list_given α α .endOfValue read room write (fun _ => true) id xs h
  rwa [List.all_eq_true.mpr fun _ _ => rfl, List.map_id] at hgiven

theorem readMembers_cons (read : Doc → Except ReadError α) (key : String) (d : Doc)
    (more : List (Except ReadError String × Doc)) (m : NameMap α) :
    readMembers read ((.ok key, d) :: more) m = (read d).bind fun a => readMembers read more (m.insert key a) := rfl

theorem readMembers_given {fault : ReadError} {read : Doc → Except ReadError α} {write : β → Json} {sound : β → Bool}
    {g : β → α} {entries : List (String × β)}
    (h : ∀ e ∈ entries, read (toDoc (write e.2)) = given fault (sound e.2) (g e.2)) (m : NameMap α) :
    readMembers read (memberDocs (entries.map fun e => (e.1, write e.2))) m =
      given fault (entries.all fun e => sound e.2) ((entries.map fun e => (e.1, g e.2)).foldl
        (fun m e => m.insert e.1 e.2) m) := by
  induction entries generalizing m with
  | nil => rfl
  | cons e entries ih =>
    obtain ⟨he, hentries⟩ := List.forall_mem_cons.mp h
    rw [List.map_cons, memberDocs, readMembers_cons, he, List.all_cons]
    cases sound e.2 with
    | false => rfl
    | true => exact ih hentries (m.insert e.1 (g e.2))

theorem map_given {fault : ReadError} {read : Reader α} {room : Nat} {write : α → Json} {sound : α → Bool}
    {g : α → α} {m : NameMap α}
    (h : ∀ e ∈ m.entries, read room (toDoc (write e.2)) = given fault (sound e.2) (g e.2)) :
    map read (room + 1) (toDoc (.object (m.toList.map fun e => (e.1, write e.2)))) =
      given fault (m.entries.all fun e => sound e.2) (m.mapValues g) := by
  have hmembers := readMembers_given h .empty
  have hmade : (m.entries.map fun e => (e.1, g e.2)).foldl (fun m e => m.insert e.1 e.2) .empty = m.mapValues g :=
    (m.mapValues g).ofList_toList
  rw [hmade] at hmembers
  simp only [toDoc, map, inBracket, NameMap.toList, hmembers]
  cases m.entries.all fun e => sound e.2 <;> rfl

theorem option_of_ne_null {read : Reader α} {room : Nat} {d : Doc} (h : d ≠ .null) :
    Reader.option read room d = (read room d).map some := by
  unfold Reader.option
  split
  next => exact absurd rfl h
  next => rfl

/-! ## Integers -/

theorem integer_number {least greatest k : Int} {n : Numeral} (type : String) (room : Nat)
    (hvalue : numeralValue n = .ok (Number.ofInt k)) (hleast : least ≤ k) (hgreatest : k ≤ greatest) :
    integer least greatest type room (.number n) = .ok k := by
  simp only [integer, hvalue, Number.ofInt]
  by_cases hneg : k < 0
  · have habs : -(k.natAbs : Int) = k := by omega
    simp only [hneg, if_true]
    exact if_pos (by omega) |>.trans (by rw [habs])
  · have habs : (k.natAbs : Int) = k := by omega
    simp only [hneg, if_false]
    exact if_pos (by omega) |>.trans (by rw [habs])

theorem integer_ofInt {least greatest n : Int} (type : String) (room : Nat) (hleast : least ≤ n)
    (hgreatest : n ≤ greatest) (hword : -9223372036854775808 ≤ least ∧ greatest ≤ 18446744073709551615) :
    integer least greatest type room (toDoc (.ofInt n)) = .ok n :=
  integer_number type room (numeralValue_ofInt (by omega) (by omega)) hleast hgreatest

end Reader

/-! ## Records -/

theorem memberDocs_append (members others : List (String × Json)) :
    memberDocs (members ++ others) = memberDocs members ++ memberDocs others := by
  simp only [memberDocs_eq_map, List.map_append]

namespace Record

variable {fields : List (Field δ)} {key : String} {required : Bool} {read : Reader α} {get : δ → Option α}
  {set : δ → α → δ} {draft : δ} {room : Nat} {d : Doc}

theorem readMembers_slot (hfield : fields.find? (·.key == key) = some (.slot key required read get set))
    (hempty : get draft = none) (rest : List (Except ReadError String × Doc)) :
    readMembers fields room ((.ok key, d) :: rest) draft =
      (read room d).bind fun a => readMembers fields room rest (set draft a) := by
  simp only [readMembers, bind, Except.bind, hfield, Field.slot, hempty, Option.isSome_none, Bool.false_eq_true,
    if_false]
  cases read room d <;> rfl

theorem readMembers_ok {a : α} (hfield : fields.find? (·.key == key) = some (.slot key required read get set))
    (hempty : get draft = none) (hread : read room d = .ok a) (rest : List (Except ReadError String × Doc)) :
    readMembers fields room ((.ok key, d) :: rest) draft = readMembers fields room rest (set draft a) := by
  rw [readMembers_slot hfield hempty, hread]
  rfl

/-- A member that is written only where there is a value. Its slot stays empty where there is none. -/
theorem readMembers_optional {get : δ → Option (Option α)} {set : δ → Option α → δ} {write : α → Json}
    {value : Option α}
    (hfield : fields.find? (·.key == key) = some (.slot key required (Reader.option read) get set))
    (hempty : get draft = none) (hread : ∀ a, read room (toDoc (write a)) = .ok a ∧ toDoc (write a) ≠ .null)
    (rest : List (Except ReadError String × Doc)) :
    readMembers fields room (memberDocs (value.map fun a => (key, write a)).toList ++ rest) draft =
      readMembers fields room rest (value.elim draft fun a => set draft (some a)) := by
  cases value with
  | none => rfl
  | some a =>
    obtain ⟨ha, hvalue⟩ := hread a
    have hoption : Reader.option read room (toDoc (write a)) = .ok (some a) := by
      rw [Reader.option_of_ne_null hvalue, ha]
      rfl
    exact readMembers_ok hfield hempty hoption rest

theorem reader_object (r : Record δ α) (room : Nat) (members : List (String × Json)) :
    r.reader (room + 1) (toDoc (.object members)) =
      (readMembers r.fields room (memberDocs members) r.blank).bind r.build := rfl

theorem reader_ok (r : Record δ α) {members : List (String × Json)} (draft : δ) {a : α}
    (hmembers : readMembers r.fields room (memberDocs members) r.blank = .ok draft) (hbuild : r.build draft = .ok a) :
    r.reader (room + 1) (toDoc (.object members)) = .ok a := by
  rw [r.reader_object, hmembers]
  exact hbuild

/-- The one member that may have a fault decides what the record is read as. -/
theorem reader_given (r : Record δ α) {β : Type} {read : Reader β} {get : δ → Option β} {set : δ → β → δ}
    {fault : ReadError} {sound : Bool} {b : β} {a : α} {rest : List (Except ReadError String × Doc)}
    (hfield : r.fields.find? (·.key == key) = some (.slot key required read get set)) (hempty : get draft = none)
    (hread : read room d = given fault sound b)
    (hrest : (readMembers r.fields room rest (set draft b)).bind r.build = .ok a) :
    (readMembers r.fields room ((.ok key, d) :: rest) draft).bind r.build = given fault sound a := by
  rw [readMembers_slot hfield hempty, hread]
  cases sound with
  | false => rfl
  | true => exact hrest

end Record

end Dataflow.Json
