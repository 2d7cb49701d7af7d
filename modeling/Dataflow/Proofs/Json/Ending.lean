/-
Readers of texts that end too early. A reader sees the end of a text when this comes
inside of a value that it reads (`SeesEnd`): the fault it meets first is that the text
has ended, since everything in front of the end is as it should be. Lists, maps and
records see the end when the readers of their parts do.
-/
import Dataflow.Proofs.Json.Cut
import Dataflow.Proofs.Json.Places
import Dataflow.Proofs.Json.Reading

namespace Dataflow.Json

open Numeric

variable {α β δ : Type}

/-- The reading fails because the text has ended. -/
def Ended (r : Except ReadError α) : Prop := ∃ e, r = .error e ∧ e.category = .ended

theorem Ended.bind {r : Except ReadError α} (h : Ended r) (f : α → Except ReadError β) : Ended (r.bind f) := by
  obtain ⟨e, rfl, he⟩ := h
  exact ⟨e, rfl, he⟩

theorem Ended.map {r : Except ReadError α} (h : Ended r) (f : α → β) : Ended (r.map f) := by
  obtain ⟨e, rfl, he⟩ := h
  exact ⟨e, rfl, he⟩

/-- The ending of a bracket that the text ends in, in front of an item or a member or behind it. -/
def Ending.IsEnd (ending : Ending) : Prop := ending = .ended ∨ ending = .endedAfterComma

theorem Ending.IsEnd.asList {ending : Ending} (h : ending.IsEnd) : Ended ending.asList := by
  rcases h with rfl | rfl
  · exact ⟨.endOfList, rfl, rfl⟩
  · exact ⟨.endOfValue, rfl, rfl⟩

theorem Ending.IsEnd.asObject {ending : Ending} (h : ending.IsEnd) : Ended ending.asObject := by
  rcases h with rfl | rfl
  · exact ⟨.endOfObject, rfl, rfl⟩
  · exact ⟨.endOfValue, rfl, rfl⟩

namespace Reader

/-- A reader takes a value, also where a numeral is a shorter one, and sees the end of a text that ends
inside of the value. -/
structure SeesEnd (read : Reader α) (room : Nat) (j : Json) : Prop where
  whole : ∃ a, read room (toDoc j) = .ok a
  shortened : ∀ n n', j = .number n → n.Shortened n' → ∃ a, read room (.number n') = .ok a
  cut : ∀ d, Cut j d → Ended (read room d)

/-! ## Texts and integers -/

theorem seesEnd_text (room : Nat) (s : String) : SeesEnd text room (.text s) where
  whole := ⟨s, rfl⟩
  shortened := nofun
  cut d hd := by
    cases hd with
    | ended h => exact ⟨_, rfl, h⟩
    | token hj => exact absurd rfl (hj s)

theorem seesEnd_integer {least greatest n : Int} (type : String) (room : Nat) (hleast : least ≤ n)
    (hgreatest : n ≤ greatest) (hzero : least ≤ 0 ∧ 0 ≤ greatest)
    (hword : -9223372036854775808 ≤ least ∧ greatest ≤ 18446744073709551615) :
    SeesEnd (integer least greatest type) room (.ofInt n) where
  whole := ⟨n, integer_ofInt type room hleast hgreatest hword⟩
  shortened m n' hm hn' := by
    cases hm
    obtain ⟨k, hvalue, hk⟩ := numeralValue_shortened hn' (by omega) (by omega)
    exact ⟨k, integer_number type room hvalue (by omega) (by omega)⟩
  cut d hd := by
    cases hd with
    | ended h => exact ⟨_, rfl, h⟩
    | token hj h => exact ⟨_, rfl, h⟩

theorem SeesEnd.comp {read : Reader α} {room : Nat} {j : Json} (h : SeesEnd read room j) (f : α → β) :
    SeesEnd (fun room d => (read room d).map f) room j where
  whole := by
    obtain ⟨a, ha⟩ := h.whole
    exact ⟨f a, by simp only [ha]; rfl⟩
  shortened n n' hj hn' := by
    obtain ⟨a, ha⟩ := h.shortened n n' hj hn'
    exact ⟨f a, by simp only [ha]; rfl⟩
  cut d hd := (h.cut d hd).map f

/-! ## Parts -/

theorem SeesEnd.option {read : Reader α} {room : Nat} {j : Json} (h : SeesEnd read room j) :
    SeesEnd (Reader.option read) room j where
  whole := by
    obtain ⟨a, ha⟩ := h.whole
    by_cases hnull : toDoc j = .null
    · exact ⟨none, by rw [hnull]; rfl⟩
    · exact ⟨some a, by rw [Reader.option_of_ne_null hnull, ha]; rfl⟩
  shortened n n' hj hn' := by
    obtain ⟨a, ha⟩ := h.shortened n n' hj hn'
    exact ⟨some a, by simp only [Reader.option, ha]; rfl⟩
  cut d hd := by
    have hread := (h.cut d hd).map some
    cases hd with
    | _ => exact hread

theorem mapM_whole {read : Reader α} {room : Nat} {items : List Json} (h : ∀ i ∈ items, SeesEnd read room i) :
    ∃ as, (itemDocs items).mapM (read room) = .ok as := by
  induction items with
  | nil => exact ⟨[], rfl⟩
  | cons i rest ih =>
    obtain ⟨hi, hrest⟩ := List.forall_mem_cons.mp h
    obtain ⟨a, ha⟩ := hi.whole
    obtain ⟨as, has⟩ := ih hrest
    exact ⟨a :: as, by rw [itemDocs, List.mapM_cons, ha, has]; rfl⟩

theorem mapM_cut {read : Reader α} {room : Nat} {items : List Json} (h : ∀ i ∈ items, SeesEnd read room i)
    {ds : List Doc} {ending : Ending} (hcut : CutItems items ds ending) :
    Ended (ds.mapM (read room)) ∨ (∃ as, ds.mapM (read room) = .ok as) ∧ ending.IsEnd := by
  induction items generalizing ds with
  | nil =>
    cases hcut with
    | none => exact .inr ⟨⟨[], rfl⟩, .inl rfl⟩
  | cons i rest ih =>
    obtain ⟨hi, hrest⟩ := List.forall_mem_cons.mp h
    cases hcut with
    | none => exact .inr ⟨⟨[], rfl⟩, .inl rfl⟩
    | number hn' =>
      obtain ⟨a, ha⟩ := hi.shortened _ _ rfl hn'
      exact .inr ⟨⟨[a], by rw [List.mapM_cons, ha]; rfl⟩, .inl rfl⟩
    | last hd => exact .inl (by rw [List.mapM_cons]; exact (hi.cut _ hd).bind _)
    | more hds =>
      obtain ⟨a, ha⟩ := hi.whole
      rw [List.mapM_cons, ha]
      rcases ih hrest hds with hended | ⟨⟨as, has⟩, hending⟩
      · exact .inl (hended.bind _)
      · exact .inr ⟨⟨a :: as, by rw [has]; rfl⟩, hending⟩

/-- **A list sees the end of the text when its items do.** -/
theorem SeesEnd.list {read : Reader α} {room : Nat} {items : List Json} (h : ∀ i ∈ items, SeesEnd read room i) :
    SeesEnd (Reader.list read) (room + 1) (.list items) where
  whole := by
    obtain ⟨as, has⟩ := mapM_whole h
    exact ⟨as, by simp only [toDoc, Reader.list, inBracket, has]; rfl⟩
  shortened := nofun
  cut d hd := by
    cases hd with
    | ended h => exact ⟨_, rfl, h⟩
    | token hj h => exact ⟨_, rfl, h⟩
    | @list _ ds ending hds =>
      have hread : Reader.list read (room + 1) (.list ds ending) =
          (ds.mapM (read room)).bind fun as => ending.asList.bind fun _ => .ok as := rfl
      rw [hread]
      rcases mapM_cut h hds with hended | ⟨⟨as, has⟩, hending⟩
      · exact hended.bind _
      · rw [has]
        exact hending.asList.bind _

theorem readMembers_whole {read : Reader α} {room : Nat} {members : List (String × Json)}
    (h : ∀ m ∈ members, SeesEnd read room m.2) (m : NameMap α) :
    ∃ m', readMembers (read room) (memberDocs members) m = .ok m' := by
  induction members generalizing m with
  | nil => exact ⟨m, rfl⟩
  | cons member rest ih =>
    obtain ⟨hmember, hrest⟩ := List.forall_mem_cons.mp h
    obtain ⟨a, ha⟩ := hmember.whole
    rw [memberDocs, readMembers_cons, ha]
    exact ih hrest (m.insert member.1 a)

theorem readMembers_cut {read : Reader α} {room : Nat} {members : List (String × Json)}
    (h : ∀ m ∈ members, SeesEnd read room m.2) {ds : List (Except ReadError String × Doc)} {ending : Ending}
    (hcut : CutMembers members ds ending) (m : NameMap α) :
    Ended (readMembers (read room) ds m) ∨ (∃ m', readMembers (read room) ds m = .ok m') ∧ ending.IsEnd := by
  induction members generalizing ds m with
  | nil =>
    cases hcut with
    | none hending => exact .inr ⟨⟨m, rfl⟩, hending⟩
  | cons member rest ih =>
    obtain ⟨hmember, hrest⟩ := List.forall_mem_cons.mp h
    cases hcut with
    | none hending => exact .inr ⟨⟨m, rfl⟩, hending⟩
    | number hn' =>
      obtain ⟨a, ha⟩ := hmember.shortened _ _ rfl hn'
      exact .inr ⟨⟨_, by simp only [readMembers, ha]; rfl⟩, .inl rfl⟩
    | key he => exact .inl ⟨_, rfl, he⟩
    | last hd => exact .inl ((hmember.cut _ hd).bind _)
    | more hds =>
      obtain ⟨a, ha⟩ := hmember.whole
      rw [readMembers_cons, ha]
      exact ih hrest hds (m.insert _ a)

/-- **A map sees the end of the text when its values do.** -/
theorem SeesEnd.map {read : Reader α} {room : Nat} {members : List (String × Json)}
    (h : ∀ m ∈ members, SeesEnd read room m.2) : SeesEnd (Reader.map read) (room + 1) (.object members) where
  whole := by
    obtain ⟨m, hm⟩ := readMembers_whole h .empty
    exact ⟨m, by simp only [toDoc, Reader.map, inBracket, hm]; rfl⟩
  shortened := nofun
  cut d hd := by
    cases hd with
    | ended h => exact ⟨_, rfl, h⟩
    | token hj h => exact ⟨_, rfl, h⟩
    | @object _ ds ending hds =>
      have hread : Reader.map read (room + 1) (.object ds ending) =
          (readMembers (read room) ds .empty).bind fun m => ending.asObject.bind fun _ => .ok m := rfl
      rw [hread]
      rcases readMembers_cut h hds .empty with hended | ⟨⟨m, hm⟩, hending⟩
      · exact hended.bind _
      · rw [hm]
        exact hending.asObject.bind _

end Reader

/-! ## Records -/

/-- A field sees the end of the text in a value that is read for it, whatever has been gathered. -/
structure Field.SeesEnd (field : Field δ) (room : Nat) (j : Json) : Prop where
  shortened : ∀ n n', j = .number n → n.Shortened n' →
    ∀ draft, ∃ draft', field.read room (.number n') draft = .ok draft'
  cut : ∀ d, Cut j d → ∀ draft, Ended (field.read room d draft)

theorem Field.seesEnd_slot {read : Reader α} {room : Nat} {j : Json} (h : read.SeesEnd room j) (key : String)
    (required : Bool) (get : δ → Option α) (set : δ → α → δ) :
    (Field.slot key required read get set).SeesEnd room j where
  shortened n n' hj hn' draft := by
    obtain ⟨a, ha⟩ := h.shortened n n' hj hn'
    exact ⟨set draft a, by simp only [Field.slot, ha]; rfl⟩
  cut d hd draft := (h.cut d hd).map (set draft)

namespace Record

variable {fields : List (Field δ)} {room : Nat}

theorem readMembers_cut {members : List (String × Json)}
    (hfields : ∀ m ∈ members, ∃ field, fields.find? (·.key == m.1) = some field ∧ field.SeesEnd room m.2) {draft : δ}
    (hwhole : ∃ draft', readMembers fields room (memberDocs members) draft = .ok draft')
    {ds : List (Except ReadError String × Doc)} {ending : Ending} (hcut : CutMembers members ds ending) :
    Ended (readMembers fields room ds draft) ∨
      (∃ draft', readMembers fields room ds draft = .ok draft') ∧ ending.IsEnd := by
  induction members generalizing ds draft with
  | nil =>
    cases hcut with
    | none hending => exact .inr ⟨⟨draft, rfl⟩, hending⟩
  | cons member rest ih =>
    obtain ⟨⟨field, hfind, hsees⟩, hrest⟩ := List.forall_mem_cons.mp hfields
    have hknown (d : Doc) (more : List (Except ReadError String × Doc)) :
        readMembers fields room ((.ok member.1, d) :: more) draft =
          if field.isSet draft then .error (.repeatedField member.1)
          else (field.read room d draft).bind (readMembers fields room more) := by
      simp only [readMembers, bind, Except.bind, hfind]
    -- The slot is empty, since the whole object can be read.
    obtain ⟨draft', hwhole⟩ := hwhole
    rw [memberDocs, hknown] at hwhole
    split at hwhole
    · cases hwhole
    next hset =>
    cases hread : field.read room (toDoc member.2) draft with
    | error e =>
      rw [hread] at hwhole
      cases hwhole
    | ok gathered =>
    rw [hread] at hwhole
    cases hcut with
    | none hending => exact .inr ⟨⟨draft, rfl⟩, hending⟩
    | number hn' =>
      obtain ⟨shorter, hshorter⟩ := hsees.shortened _ _ rfl hn' draft
      exact .inr ⟨⟨shorter, by rw [hknown, if_neg hset, hshorter]; rfl⟩, .inl rfl⟩
    | key he => exact .inl ⟨_, rfl, he⟩
    | last hd =>
      rw [hknown, if_neg hset]
      exact .inl ((hsees.cut _ hd draft).bind _)
    | more hds =>
      rw [hknown, if_neg hset, hread]
      exact ih hrest ⟨draft', hwhole⟩ hds

/-- **A record sees the end of the text when its fields do**, if the object can be read and has no other
members. -/
theorem seesEnd (r : Record δ α) {members : List (String × Json)}
    (hfields : ∀ m ∈ members, ∃ field, r.fields.find? (·.key == m.1) = some field ∧ field.SeesEnd room m.2)
    (hwhole : ∃ a, r.reader (room + 1) (toDoc (.object members)) = .ok a) :
    r.reader.SeesEnd (room + 1) (.object members) where
  whole := hwhole
  shortened := nofun
  cut d hd := by
    have hdraft : ∃ draft, readMembers r.fields room (memberDocs members) r.blank = .ok draft := by
      obtain ⟨a, ha⟩ := hwhole
      rw [r.reader_object] at ha
      cases hread : readMembers r.fields room (memberDocs members) r.blank with
      | error e => rw [hread] at ha; cases ha
      | ok draft => exact ⟨draft, rfl⟩
    cases hd with
    | ended h => exact ⟨_, rfl, h⟩
    | token hj h => exact ⟨_, rfl, h⟩
    | @object _ ds ending hds =>
      have hread : r.reader (room + 1) (.object ds ending) =
          (readMembers r.fields room ds r.blank).bind fun draft => ending.asObject.bind fun _ => r.build draft := rfl
      rw [hread]
      rcases readMembers_cut hfields hdraft hds with hended | ⟨⟨draft, hgathered⟩, hending⟩
      · exact hended.bind _
      · rw [hgathered]
        exact hending.asObject.bind _

end Record

end Dataflow.Json
