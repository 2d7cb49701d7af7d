/-
Members in any order. A record keeps each of its fields in a slot of its own
(`Record.Slots`), so an object is read by the values of each name alone,
wherever they stand: the reading succeeds exactly when every known name has one
value at most, one that its reader takes, and the value ends up in the slot
(`readMembers_iff`). Whatever other members there are is passed over.
-/
import Dataflow.Proofs.Json.Reading

namespace Dataflow.Json

/-! ## Trees without a fault -/

/-- A tree without a place where the text breaks off. -/
inductive Doc.Whole : Doc → Prop
  | null : Whole .null
  | bool (b : Bool) : Whole (.bool b)
  | number (n : Numeric.Numeral) : Whole (.number n)
  | text (s : Except ReadError String) : Whole (.text s)
  | list {items : List Doc} (h : ∀ d ∈ items, Whole d) : Whole (.list items .closed)
  | object {members : List (Except ReadError String × Doc)} (h : ∀ m ∈ members, Whole m.2) :
    Whole (.object members .closed)

namespace Doc.Whole

theorem items {items : List Doc} {ending : Ending} (h : Whole (.list items ending)) : ∀ d ∈ items, d.Whole := by
  cases h with
  | list h => exact h

theorem members {members : List (Except ReadError String × Doc)} {ending : Ending}
    (h : Whole (.object members ending)) : ∀ m ∈ members, m.2.Whole := by
  cases h with
  | object h => exact h

theorem skip {d : Doc} (h : d.Whole) : d.skip = .ok () := by
  cases h <;> rfl

end Doc.Whole

/-- **What a text spells is whole.** -/
theorem Spelled.whole {d : Doc} {cs : List Char} (h : Spelled d cs) : d.Whole := by
  induction h with
  | null => exact .null
  | bool b => exact .bool b
  | number _ _ => exact .number _
  | text _ => exact .text _
  | emptyList _ _ => exact .list (by simp)
  | list _ _ ih => exact .list (List.forall_mem_map.mpr ih)
  | emptyObject _ _ => exact .object (by simp)
  | object _ _ ih => exact .object (List.forall_mem_map.mpr ih)
  | padded _ _ _ ih => exact ih

/-! ## The values of a name -/

/-- The values that some members have for a name, in their order. -/
def valuesOf (name : String) (members : List (Except ReadError String × Doc)) : List Doc :=
  members.filterMap fun m =>
    match m.1 with
    | .ok key => if key = name then some m.2 else none
    | .error _ => none

theorem valuesOf_cons_self (name : String) (d : Doc) (rest : List (Except ReadError String × Doc)) :
    valuesOf name ((.ok name, d) :: rest) = d :: valuesOf name rest := by
  simp [valuesOf]

theorem valuesOf_cons_other {key name : String} (h : key ≠ name) (d : Doc)
    (rest : List (Except ReadError String × Doc)) : valuesOf name ((.ok key, d) :: rest) = valuesOf name rest := by
  simp [valuesOf, h]

theorem valuesOf_perm (name : String) {members members' : List (Except ReadError String × Doc)}
    (h : members.Perm members') : (valuesOf name members).Perm (valuesOf name members') := h.filterMap _

theorem mem_of_mem_valuesOf {name : String} {d : Doc} {members : List (Except ReadError String × Doc)}
    (h : d ∈ valuesOf name members) : (.ok name, d) ∈ members := by
  obtain ⟨⟨key, value⟩, hm, hvalue⟩ := List.mem_filterMap.mp h
  cases key with
  | error e => cases hvalue
  | ok key =>
    dsimp only at hvalue
    split at hvalue
    next hkey =>
      subst hkey
      cases hvalue
      exact hm
    next => cases hvalue

theorem Doc.Whole.valuesOf {name : String} {members : List (Except ReadError String × Doc)} {ending : Ending}
    (h : Doc.Whole (.object members ending)) : ∀ d ∈ valuesOf name members, d.Whole := fun _ hd =>
  h.members _ (mem_of_mem_valuesOf hd)

def RepeatsName (names : List String) (members : List (Except ReadError String × Doc)) : Prop :=
  ∃ name ∈ names, 2 ≤ (valuesOf name members).length

/-! ## Slots -/

/-- The slot of a field in a draft. -/
structure Slot (δ : Type) where
  {α : Type}
  key : String
  required : Bool
  read : Reader α
  get : δ → Option α
  set : δ → α → δ

variable {δ α : Type}

namespace Slot

def field (s : Slot δ) : Field δ := .slot s.key s.required s.read s.get s.set

/-- Two slots of different names, neither of which changes what is in the other. -/
@[mk_iff]
structure Apart (s t : Slot δ) : Prop where
  key : s.key ≠ t.key
  left : ∀ draft a, s.get (t.set draft a) = s.get draft
  right : ∀ draft a, t.get (s.set draft a) = t.get draft

instance : Std.Symm (@Apart δ) where
  symm _ _ h := ⟨h.key.symm, h.right, h.left⟩

end Slot

/-- What some values, one behind the other, make of what is in a slot. A slot takes no second value. -/
def Fills (read : Doc → Except ReadError α) : Option α → List Doc → Option α → Prop
  | before, [], after => after = before
  | before, d :: rest, after => before = none ∧ ∃ a, read d = .ok a ∧ Fills read (some a) rest after

section Fills

variable {read : Doc → Except ReadError α}

theorem Fills.one {d : Doc} {a : α} (h : read d = .ok a) : Fills read none [d] (some a) := ⟨rfl, a, h, rfl⟩

theorem Fills.length_le {before after : Option α} {values : List Doc} (h : Fills read before values after) :
    values.length ≤ 1 := by
  match values, h with
  | [], _ => simp
  | [_], _ => simp
  | _ :: _ :: _, ⟨_, _, _, hnone, _⟩ => cases hnone

theorem Fills.read_ok {before after : Option α} {values : List Doc} (h : Fills read before values after) :
    ∀ d ∈ values, ∃ a, read d = .ok a := by
  induction values generalizing before with
  | nil => simp
  | cons d rest ih =>
    obtain ⟨-, a, ha, hrest⟩ := h
    exact List.forall_mem_cons.mpr ⟨⟨a, ha⟩, ih hrest⟩

end Fills

/-- The slots of a record: its fields are these, they make up the draft, and none touches another. -/
structure Record.Slots (r : Record δ α) where
  slots : List (Slot δ)
  fields : slots.map Slot.field = r.fields
  apart : slots.Pairwise Slot.Apart
  get_set : ∀ s ∈ slots, ∀ draft a, s.get (s.set draft a) = some a
  ext : ∀ draft draft', (∀ s ∈ slots, s.get draft = s.get draft') → draft = draft'
  blank : ∀ s ∈ slots, s.get r.blank = none

namespace Record.Slots

variable {r : Record δ α} (l : r.Slots)

theorem apart_of_ne {s t : Slot δ} (hs : s ∈ l.slots) (ht : t ∈ l.slots) (h : s ≠ t) : s.Apart t :=
  l.apart.forall hs ht h

theorem find?_of_mem {t : Slot δ} (ht : t ∈ l.slots) : r.fields.find? (·.key == t.key) = some t.field := by
  have hfound : (l.slots.find? fun s => s.key == t.key).isSome := List.find?_isSome.mpr ⟨t, ht, beq_self_eq_true _⟩
  obtain ⟨s, hs⟩ := Option.isSome_iff_exists.mp hfound
  have hkey : s.key = t.key := beq_iff_eq.mp (List.find?_some hs :)
  obtain rfl : s = t := by
    by_contra hne
    exact (l.apart_of_ne (List.mem_of_find?_eq_some hs) ht hne).key hkey
  rw [← l.fields, List.find?_map]
  exact congrArg (Option.map Slot.field) hs

theorem find?_of_not_mem {key : String} (h : ∀ s ∈ l.slots, s.key ≠ key) :
    r.fields.find? (·.key == key) = none := by
  rw [← l.fields, List.find?_eq_none]
  intro field hfield
  obtain ⟨s, hs, rfl⟩ := List.mem_map.mp hfield
  exact fun hkey => h s hs (beq_iff_eq.mp hkey)

variable {room : Nat} {draft draft' : δ} {d : Doc} {rest : List (Except ReadError String × Doc)}

theorem readMembers_known {t : Slot δ} (ht : t ∈ l.slots) :
    readMembers r.fields room ((.ok t.key, d) :: rest) draft = .ok draft' ↔
      t.get draft = none ∧
        ∃ a, t.read room d = .ok a ∧ readMembers r.fields room rest (t.set draft a) = .ok draft' := by
  cases hget : t.get draft with
  | some a =>
    -- A second value is a fault.
    simp only [readMembers, bind, Except.bind, l.find?_of_mem ht, Slot.field, Field.slot, hget, Option.isSome_some,
      if_true, reduceCtorEq, false_and]
  | none =>
    rw [readMembers_slot (l.find?_of_mem ht) hget]
    cases t.read room d with
    | error e => simp only [Except.bind, reduceCtorEq, false_and, exists_false, and_false]
    | ok a => simp only [Except.bind, Except.ok.injEq, true_and, exists_eq_left']

theorem readMembers_unknown {key : String} (hkey : ∀ s ∈ l.slots, s.key ≠ key) :
    readMembers r.fields room ((.ok key, d) :: rest) draft = .ok draft' ↔
      d.skip = .ok () ∧ readMembers r.fields room rest draft = .ok draft' := by
  simp only [readMembers, bind, Except.bind, l.find?_of_not_mem hkey]
  cases d.skip with
  | error e => simp only [reduceCtorEq, false_and]
  | ok _ => simp only [true_and]

theorem fills_cons {t : Slot δ} (ht : t ∈ l.slots) {a : t.α} (hnone : t.get draft = none)
    (hread : t.read room d = .ok a) :
    (∀ s ∈ l.slots, Fills (s.read room) (s.get draft) (valuesOf s.key ((.ok t.key, d) :: rest)) (s.get draft')) ↔
      ∀ s ∈ l.slots, Fills (s.read room) (s.get (t.set draft a)) (valuesOf s.key rest) (s.get draft') := by
  refine forall₂_congr fun s hs => ?_
  by_cases hst : s = t
  · subst hst
    rw [valuesOf_cons_self, l.get_set s hs, hnone, Fills, hread]
    simp only [Except.ok.injEq, true_and, exists_eq_left']
  · have hapart := l.apart_of_ne hs ht hst
    rw [valuesOf_cons_other hapart.key.symm, hapart.left]

/-- **An object is read by the values of each name**, in whatever order its members stand. -/
theorem readMembers_iff {members : List (Except ReadError String × Doc)} :
    readMembers r.fields room members draft = .ok draft' ↔
      (∀ m ∈ members, ∃ key, m.1 = .ok key ∧ ((∀ s ∈ l.slots, s.key ≠ key) → m.2.skip = .ok ())) ∧
        ∀ s ∈ l.slots, Fills (s.read room) (s.get draft) (valuesOf s.key members) (s.get draft') := by
  induction members generalizing draft with
  | nil =>
    refine ⟨fun h => ?_, fun h => ?_⟩
    · cases h
      exact ⟨by simp, fun _ _ => rfl⟩
    · exact congrArg Except.ok (l.ext _ _ fun s hs => (h.2 s hs).symm)
  | cons m rest ih =>
    obtain ⟨key, d⟩ := m
    rw [List.forall_mem_cons]
    cases key with
    | error e => simp only [readMembers, bind, Except.bind, reduceCtorEq, false_and, exists_false]
    | ok key =>
      simp only [Except.ok.injEq, exists_eq_left']
      -- A member of a known name fills its slot; any other one is a value of no slot.
      by_cases hknown : ∃ t ∈ l.slots, t.key = key
      · obtain ⟨t, ht, rfl⟩ := hknown
        rw [l.readMembers_known ht]
        constructor
        · rintro ⟨hnone, a, hread, hrest⟩
          obtain ⟨hmembers, hfills⟩ := ih.mp hrest
          exact ⟨⟨fun hother => absurd rfl (hother t ht), hmembers⟩, (l.fills_cons ht hnone hread).mpr hfills⟩
        · rintro ⟨⟨-, hmembers⟩, hfills⟩
          have hself := hfills t ht
          rw [valuesOf_cons_self] at hself
          obtain ⟨hnone, a, hread, -⟩ := hself
          exact ⟨hnone, a, hread, ih.mpr ⟨hmembers, (l.fills_cons ht hnone hread).mp hfills⟩⟩
      · have hother : ∀ s ∈ l.slots, s.key ≠ key := fun s hs h => hknown ⟨s, hs, h⟩
        have hvalues : ∀ s ∈ l.slots, valuesOf s.key ((.ok key, d) :: rest) = valuesOf s.key rest := fun s hs =>
          valuesOf_cons_other (hother s hs).symm d rest
        rw [l.readMembers_unknown hother, ih, ← and_assoc]
        refine and_congr (and_congr_left' ⟨fun h _ => h, fun h => h hother⟩) (forall₂_congr fun s hs => ?_)
        rw [hvalues s hs]

/-- An object is read as what its slots make up. -/
theorem reader_build (draft : δ) {members : List (Except ReadError String × Doc)}
    (hwhole : Doc.Whole (.object members .closed)) (hkeys : ∀ m ∈ members, ∃ key, m.1 = .ok key)
    (hfills : ∀ s ∈ l.slots, Fills (s.read room) none (valuesOf s.key members) (s.get draft)) :
    r.reader (room + 1) (.object members .closed) = r.build draft := by
  have hread : readMembers r.fields room members r.blank = .ok draft := by
    refine l.readMembers_iff.mpr ⟨fun m hm => ?_, fun s hs => l.blank s hs ▸ hfills s hs⟩
    obtain ⟨key, hkey⟩ := hkeys m hm
    exact ⟨key, hkey, fun _ => (hwhole.members m hm).skip⟩
  simp only [reader, inBracket, hread]
  rfl

theorem reader_ok (draft : δ) {members : List (Except ReadError String × Doc)}
    (hwhole : Doc.Whole (.object members .closed)) (hkeys : ∀ m ∈ members, ∃ key, m.1 = .ok key) {a : α}
    (hfills : ∀ s ∈ l.slots, Fills (s.read room) none (valuesOf s.key members) (s.get draft))
    (hbuild : r.build draft = .ok a) : r.reader (room + 1) (.object members .closed) = .ok a :=
  (l.reader_build draft hwhole hkeys hfills).trans hbuild

theorem fills_of_reader {members : List (Except ReadError String × Doc)} {ending : Ending} {a : α}
    (h : r.reader room (.object members ending) = .ok a) :
    ∃ inner, ∀ s ∈ l.slots, ∃ after, Fills (s.read inner) none (valuesOf s.key members) after := by
  cases room with
  | zero => cases h
  | succ inner =>
    simp only [reader, inBracket] at h
    cases hread : readMembers r.fields inner members r.blank with
    | error e =>
      rw [hread] at h
      cases h
    | ok draft => exact ⟨inner, fun s hs => ⟨_, l.blank s hs ▸ (l.readMembers_iff.mp hread).2 s hs⟩⟩

/-- An object with a field twice is not read. -/
theorem reader_repeated {members : List (Except ReadError String × Doc)} {ending : Ending}
    (h : RepeatsName (l.slots.map Slot.key) members) (a : α) : r.reader room (.object members ending) ≠ .ok a := by
  intro hread
  obtain ⟨key, hkey, htwice⟩ := h
  obtain ⟨s, hs, rfl⟩ := List.mem_map.mp hkey
  obtain ⟨inner, hfills⟩ := l.fills_of_reader hread
  obtain ⟨after, hafter⟩ := hfills s hs
  have := hafter.length_le
  omega

theorem reader_untaken {members : List (Except ReadError String × Doc)} {ending : Ending} {s : Slot δ}
    (hs : s ∈ l.slots) {d : Doc} (hd : d ∈ valuesOf s.key members) (h : ∀ inner b, s.read inner d ≠ .ok b) (a : α) :
    r.reader room (.object members ending) ≠ .ok a := by
  intro hread
  obtain ⟨inner, hfills⟩ := l.fills_of_reader hread
  obtain ⟨after, hafter⟩ := hfills s hs
  obtain ⟨b, hb⟩ := hafter.read_ok d hd
  exact h inner b hb

end Record.Slots

/-! ## Fields that may be left out -/

/-- A field stands once among the members, in some spelling, or not at all where it may be left out. -/
def Written (key : String) (members : List (Except ReadError String × Doc)) (omissible : Prop) (spells : Doc → Prop) :
    Prop :=
  (omissible ∧ valuesOf key members = []) ∨ ∃ d, spells d ∧ valuesOf key members = [d]

namespace Written

variable {key : String} {members : List (Except ReadError String × Doc)} {spells : Doc → Prop} {a : α}

theorem fills {omissible : Prop} (h : Written key members omissible spells) (read : Doc → Except ReadError α)
    (hread : ∀ d ∈ valuesOf key members, spells d → read d = .ok a) :
    ∃ after, Fills read none (valuesOf key members) after ∧ (after = some a ∨ omissible ∧ after = none) := by
  rcases h with ⟨homissible, hnone⟩ | ⟨d, hd, hone⟩
  · exact ⟨none, by rw [hnone]; rfl, .inr ⟨homissible, rfl⟩⟩
  · rw [hone] at hread ⊢
    exact ⟨some a, .one (hread d (List.mem_singleton_self d) hd), .inl rfl⟩

theorem fills_required (h : Written key members False spells) (read : Doc → Except ReadError α)
    (hread : ∀ d ∈ valuesOf key members, spells d → read d = .ok a) :
    Fills read none (valuesOf key members) (some a) := by
  obtain ⟨after, hfills, rfl | ⟨hfalse, -⟩⟩ := h.fills read hread
  · exact hfills
  · exact hfalse.elim

theorem ne_nil (h : Written key members False spells) : valuesOf key members ≠ [] := by
  obtain ⟨hfalse, -⟩ | ⟨d, -, hone⟩ := h
  · exact hfalse.elim
  · rw [hone]
    exact List.cons_ne_nil d []

theorem fills_default {default : α} (h : Written key members (a = default) spells) (read : Doc → Except ReadError α)
    (hread : ∀ d ∈ valuesOf key members, spells d → read d = .ok a) :
    ∃ after, Fills read none (valuesOf key members) after ∧ after.getD default = a := by
  obtain ⟨after, hfills, rfl | ⟨hdefault, rfl⟩⟩ := h.fills read hread
  · exact ⟨some a, hfills, rfl⟩
  · exact ⟨none, hfills, hdefault.symm⟩

end Written

/-! ## Parts -/

def SpellsOption (spells : α → Doc → Prop) : Option α → Doc → Prop
  | none, d => d = .null
  | some a, d => spells a d

theorem Reader.option_ok {read : Reader α} {room : Nat} {spells : α → Doc → Prop} {value : Option α} {d : Doc}
    (hd : SpellsOption spells value d) (hread : ∀ a, spells a d → d ≠ .null ∧ read room d = .ok a) :
    Reader.option read room d = .ok value := by
  cases value with
  | none =>
    obtain rfl : d = .null := hd
    rfl
  | some a =>
    obtain ⟨hvalue, ha⟩ := hread a hd
    rw [Reader.option_of_ne_null hvalue, ha]
    rfl

theorem Reader.list_forall₂ {read : Reader α} {room : Nat} {xs : List α} {items : List Doc}
    (h : List.Forall₂ (fun a d => read room d = .ok a) xs items) :
    Reader.list read (room + 1) (.list items .closed) = .ok xs := by
  have hitems : items.mapM (read room) = .ok xs := mapM_ok_iff.mpr h
  simp only [Reader.list, inBracket, hitems]
  rfl

theorem Reader.option_untaken {read : Reader α} {room : Nat} {d : Doc} (hnull : d ≠ .null)
    (h : ∀ a, read room d ≠ .ok a) (value : Option α) : Reader.option read room d ≠ .ok value := by
  rw [Reader.option_of_ne_null hnull]
  cases hread : read room d with
  | error e => simp only [Except.map, ne_eq, reduceCtorEq, not_false_eq_true]
  | ok a => exact absurd hread (h a)

theorem Reader.list_untaken {read : Reader α} {room : Nat} {items : List Doc} {ending : Ending} {d : Doc}
    (hd : d ∈ items) (h : ∀ inner a, read inner d ≠ .ok a) (xs : List α) :
    Reader.list read room (.list items ending) ≠ .ok xs := by
  cases room with
  | zero => simp only [Reader.list, inBracket, ne_eq, reduceCtorEq, not_false_eq_true]
  | succ inner =>
    have hitems : ∃ e, items.mapM (read inner) = .error e := by
      induction items with
      | nil => cases hd
      | cons item rest ih =>
        rw [List.mapM_cons]
        cases hitem : read inner item with
        | error e => exact ⟨e, rfl⟩
        | ok a =>
          rcases List.mem_cons.mp hd with rfl | hd
          · exact absurd hitem (h inner a)
          · obtain ⟨e, he⟩ := ih hd
            exact ⟨e, by rw [he]; rfl⟩
    obtain ⟨e, he⟩ := hitems
    simp only [Reader.list, inBracket, he, bind, Except.bind, ne_eq, reduceCtorEq, not_false_eq_true]

/-- The entries of a map, in any order, make the map again. -/
theorem Reader.map_perm {read : Reader α} {room : Nat} {write : α → Json} {m : NameMap α} {entries : List (String × α)}
    (hperm : entries.Perm m.entries) (h : ∀ e ∈ entries, read room (toDoc (write e.2)) = .ok e.2) :
    Reader.map read (room + 1) (toDoc (.object (entries.map fun e => (e.1, write e.2)))) = .ok m := by
  have hmembers := @Reader.readMembers_given α α .endOfValue (read room) write (fun _ => true) id entries h .empty
  have hmade : entries.foldl (fun m e => m.insert e.1 e.2) .empty = m := NameMap.ofList_perm hperm
  have hall : (entries.all fun _ => true) = true := List.all_eq_true.mpr fun _ _ => rfl
  simp only [id_eq, Prod.eta, List.map_id', hmade, hall, given_true] at hmembers
  simp only [toDoc, Reader.map, inBracket, hmembers]
  rfl

end Dataflow.Json
