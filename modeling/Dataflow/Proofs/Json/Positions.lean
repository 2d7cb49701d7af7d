/-
Records by position. A record may be a list of the values of its fields, in the
order of the fields. Such a list is read just as the object with the same values
under the names of the fields is, as long as it has no more items than there are
fields and none of the missing ones is required (`Record.Slots.reader_list_iff`).
So what is known of objects holds for lists.
-/
import Dataflow.Proofs.Json.Members

namespace Dataflow.Json

/-! ## Items under names -/

/-- Items as the members of the names at the same places. -/
def named (names : List String) (items : List Doc) : List (Except ReadError String × Doc) :=
  (names.zip items).map fun m => (.ok m.1, m.2)

theorem named_cons (name : String) (names : List String) (d : Doc) (items : List Doc) :
    named (name :: names) (d :: items) = (.ok name, d) :: named names items := rfl

theorem valuesOf_named_drop {names : List String} {items : List Doc} (hnames : names.Nodup) {name : String}
    (h : name ∈ names.drop items.length) : valuesOf name (named names items) = [] := by
  induction names generalizing items with
  | nil => cases items <;> rfl
  | cons first names ih =>
    cases items with
    | nil => rfl
    | cons d items =>
      obtain ⟨hfirst, hnames⟩ := List.nodup_cons.mp hnames
      rw [List.length_cons, List.drop_succ_cons] at h
      have hne : first ≠ name := fun heq => hfirst (heq ▸ List.mem_of_mem_drop h)
      rw [named_cons, valuesOf_cons_other hne, ih hnames h]

/-- A record with some members: an object of them, or a list of their values in the order of the fields, which may
end early. -/
inductive Doc.RecordOf (names : List String) : List (Except ReadError String × Doc) → Doc → Prop
  | object (members : List (Except ReadError String × Doc)) : RecordOf names members (.object members .closed)
  | list {items : List Doc} (h : items.length ≤ names.length) :
    RecordOf names (named names items) (.list items .closed)

theorem Doc.RecordOf.whole {names : List String} {members : List (Except ReadError String × Doc)} {d : Doc}
    (h : RecordOf names members d) (hwhole : d.Whole) : Doc.Whole (.object members .closed) := by
  cases h with
  | object => exact hwhole
  | list _ =>
    refine .object fun m hm => ?_
    obtain ⟨⟨name, item⟩, hzip, rfl⟩ := List.mem_map.mp hm
    exact hwhole.items item (List.of_mem_zip hzip).2

theorem Doc.RecordOf.not_null {names : List String} {members : List (Except ReadError String × Doc)} {d : Doc}
    (h : RecordOf names members d) : d ≠ .null := by
  cases h <;> exact nofun

/-! ## Reading by position -/

variable {δ α : Type}

namespace Record.Slots

variable {r : Record δ α} (l : r.Slots) {room : Nat}

theorem names_nodup : (l.slots.map Slot.key).Nodup := List.pairwise_map.mpr (l.apart.imp Slot.Apart.key)

/-- Items are read into slots as the members of the same names are, when there are slots for all of them and none of
the slots without an item is required. -/
theorem readItems_iff {slots : List (Slot δ)} (hslots : slots ⊆ l.slots) (hapart : slots.Pairwise Slot.Apart)
    {tooShort : Nat → ReadError} {n : Nat} {items : List Doc} {draft draft' : δ}
    (hempty : ∀ s ∈ slots, s.get draft = none) :
    readItems room tooShort (slots.map Slot.field) n items .closed draft = .ok draft' ↔
      items.length ≤ slots.length ∧ (∀ s ∈ slots.drop items.length, s.required = false) ∧
        readMembers r.fields room (named (slots.map Slot.key) items) draft = .ok draft' := by
  induction slots generalizing n items draft with
  | nil => cases items <;> simp [readItems, endOfFields, named, readMembers]
  | cons s slots ih =>
    obtain ⟨hs, hslots⟩ := List.cons_subset.mp hslots
    obtain ⟨haparts, hapart⟩ := List.pairwise_cons.mp hapart
    obtain ⟨hnone, hempty⟩ := List.forall_mem_cons.mp hempty
    cases items with
    | nil =>
      have hrest := @ih hslots hapart (n + 1) [] draft hempty
      have hstep : readItems room tooShort ((s :: slots).map Slot.field) n [] .closed draft =
          if s.required then .error (tooShort n)
          else readItems room tooShort (slots.map Slot.field) (n + 1) [] .closed draft := rfl
      rw [hstep]
      cases hrequired : s.required with
      | true => simp [hrequired]
      | false =>
        rw [if_neg Bool.false_ne_true, hrest]
        simp [hrequired, named]
    | cons d items =>
      have hstep : readItems room tooShort ((s :: slots).map Slot.field) n (d :: items) .closed draft =
          ((s.read room d).map (s.set draft)).bind
            (readItems room tooShort (slots.map Slot.field) (n + 1) items .closed) := rfl
      rw [hstep, List.map_cons, named_cons, l.readMembers_known hs]
      cases hread : s.read room d with
      | error e => simp [Except.map, Except.bind]
      | ok a =>
        have hfree : ∀ t ∈ slots, t.get (s.set draft a) = none := fun t ht =>
          ((haparts t ht).right draft a).trans (hempty t ht)
        simp only [Except.map, Except.bind, hnone, Except.ok.injEq, true_and, exists_eq_left', List.length_cons,
          Nat.add_le_add_iff_right, List.drop_succ_cons]
        exact ih hslots hapart hfree

/-- **A list is read as the object of its items under the names of the fields**, when it has no more items than there
are fields and no required field is missing. -/
theorem reader_list_iff {items : List Doc} {a : α} :
    r.reader room (.list items .closed) = .ok a ↔
      items.length ≤ l.slots.length ∧ (∀ s ∈ l.slots.drop items.length, s.required = false) ∧
        r.reader room (.object (named (l.slots.map Slot.key) items) .closed) = .ok a := by
  cases room with
  | zero => simp [reader, inBracket]
  | succ inner =>
    have hitems (draft' : δ) := @readItems_iff _ _ _ l inner _ (List.Subset.refl _) l.apart
      (.wrongLength · r.fieldCount) 0 items r.blank draft' l.blank
    rw [l.fields] at hitems
    have hlist : r.reader (inner + 1) (.list items .closed) = .ok a ↔ ∃ draft',
        readItems inner (.wrongLength · r.fieldCount) r.fields 0 items .closed r.blank = .ok draft' ∧
          r.build draft' = .ok a := by
      simp only [reader, inBracket]
      cases readItems inner (.wrongLength · r.fieldCount) r.fields 0 items .closed r.blank <;>
        simp [bind, Except.bind]
    have hobject : r.reader (inner + 1) (.object (named (l.slots.map Slot.key) items) .closed) = .ok a ↔ ∃ draft',
        readMembers r.fields inner (named (l.slots.map Slot.key) items) r.blank = .ok draft' ∧
          r.build draft' = .ok a := by
      simp only [reader, inBracket, Ending.asObject]
      cases readMembers r.fields inner (named (l.slots.map Slot.key) items) r.blank <;> simp [bind, Except.bind]
    rw [hlist, hobject]
    simp only [hitems, and_assoc, exists_and_left]

/-- A record is read as the object of its members is, when all required fields are there. -/
theorem reader_record {names : List String} (hnames : l.slots.map Slot.key = names)
    {members : List (Except ReadError String × Doc)} {d : Doc} (h : Doc.RecordOf names members d)
    (hrequired : ∀ s ∈ l.slots, s.required = true → valuesOf s.key members ≠ []) {a : α}
    (hread : r.reader room (.object members .closed) = .ok a) : r.reader room d = .ok a := by
  subst hnames
  cases h with
  | object => exact hread
  | list hlength =>
    refine l.reader_list_iff.mpr ⟨by simpa using hlength, fun s hs => ?_, hread⟩
    rw [← Bool.not_eq_true]
    refine fun hrequires => hrequired s (List.mem_of_mem_drop hs) hrequires (valuesOf_named_drop l.names_nodup ?_)
    rw [← List.map_drop]
    exact List.mem_map_of_mem hs

theorem reader_record_untaken {names : List String} (hnames : l.slots.map Slot.key = names)
    {members : List (Except ReadError String × Doc)} {d : Doc} (h : Doc.RecordOf names members d) {s : Slot δ}
    (hs : s ∈ l.slots) {value : Doc} (hvalue : value ∈ valuesOf s.key members)
    (huntaken : ∀ inner b, s.read inner value ≠ .ok b) (a : α) : r.reader room d ≠ .ok a := by
  subst hnames
  cases h with
  | object => exact l.reader_untaken hs hvalue huntaken a
  | list _ => exact fun hread => l.reader_untaken hs hvalue huntaken a (l.reader_list_iff.mp hread).2.2

theorem reader_list_long {items : List Doc} (h : l.slots.length < items.length) (a : α) :
    r.reader room (.list items .closed) ≠ .ok a := fun hread =>
  absurd (l.reader_list_iff.mp hread).1 (Nat.not_le.mpr h)

theorem reader_list_short {items : List Doc} {s : Slot δ} (hs : s ∈ l.slots.drop items.length)
    (hrequired : s.required = true) (a : α) : r.reader room (.list items .closed) ≠ .ok a := fun hread =>
  Bool.false_ne_true (((l.reader_list_iff.mp hread).2.1 s hs).symm.trans hrequired)

end Record.Slots

end Dataflow.Json
