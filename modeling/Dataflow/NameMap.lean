/-
Finite maps from names to values. The entries are kept in strictly ascending
order of the names, so two maps with the same content are equal, and whatever
is printed from a map comes out in that order. Names are compared character by
character, by code point.

`insert` replaces the value of a name it already holds: the last write wins
(`get?_insert_self`), and no other name is touched (`get?_insert_other`).
-/

namespace Dataflow

/-- A finite map from names to values. -/
structure NameMap (α : Type) where
  entries : List (String × α)
  ascending : entries.Pairwise (fun a b => a.1 < b.1)

namespace NameMap

variable {α β : Type}

instance [DecidableEq α] : DecidableEq (NameMap α) := fun a b =>
  decidable_of_iff (a.entries = b.entries)
    ⟨fun h => by cases a; cases b; simp_all, fun h => by rw [h]⟩

instance [BEq α] : BEq (NameMap α) := ⟨fun a b => a.entries == b.entries⟩

def empty : NameMap α := ⟨[], .nil⟩

instance : Inhabited (NameMap α) := ⟨empty⟩

/-- Puts an entry at its place in a list in ascending order. -/
def place (name : String) (value : α) : List (String × α) → List (String × α)
  | [] => [(name, value)]
  | entry :: rest =>
    if name < entry.1 then (name, value) :: entry :: rest
    else if entry.1 < name then entry :: place name value rest
    else (name, value) :: rest

def find (name : String) : List (String × α) → Option α
  | [] => none
  | entry :: rest => if entry.1 = name then some entry.2 else find name rest

theorem eq_of_not_lt {a b : String} (h : ¬ a < b) (h' : ¬ b < a) : a = b :=
  String.le_antisymm (String.not_lt.mp h') (String.not_lt.mp h)

theorem mem_place {name : String} {value : α} {entry : String × α} :
    ∀ {l : List (String × α)}, entry ∈ place name value l → entry = (name, value) ∨ entry ∈ l
  | [], h => by simpa [place] using h
  | e :: rest, h => by
    unfold place at h
    split at h
    · simpa using h
    · split at h
      · rcases List.mem_cons.mp h with h | h
        · exact .inr (by simp [h])
        · rcases mem_place h with h | h
          · exact .inl h
          · exact .inr (List.mem_cons_of_mem _ h)
      · rcases List.mem_cons.mp h with h | h
        · exact .inl h
        · exact .inr (List.mem_cons_of_mem _ h)

theorem pairwise_place (name : String) (value : α) :
    ∀ {l : List (String × α)}, l.Pairwise (fun a b => a.1 < b.1) →
      (place name value l).Pairwise (fun a b => a.1 < b.1)
  | [], _ => by simp [place]
  | e :: rest, h => by
    have ⟨hlt, hrest⟩ := List.pairwise_cons.mp h
    unfold place
    split
    next hn =>
      refine List.pairwise_cons.mpr ⟨fun x hx => ?_, h⟩
      rcases List.mem_cons.mp hx with rfl | hx
      · exact hn
      · exact String.lt_trans hn (hlt x hx)
    next hn =>
      split
      next he =>
        refine List.pairwise_cons.mpr ⟨fun x hx => ?_, pairwise_place name value hrest⟩
        rcases mem_place hx with rfl | hx
        · exact he
        · exact hlt x hx
      next he =>
        have : name = e.1 := eq_of_not_lt hn he
        subst this
        exact List.pairwise_cons.mpr ⟨hlt, hrest⟩

theorem find_place_self (name : String) (value : α) :
    ∀ l : List (String × α), find name (place name value l) = some value
  | [] => by simp [place, find]
  | e :: rest => by
    unfold place
    split
    · simp [find]
    · split
      next he =>
        have : e.1 ≠ name := fun h => String.lt_irrefl name (h ▸ he)
        simp [find, this, find_place_self name value rest]
      · simp [find]

theorem find_place_other {name other : String} (value : α) (h : other ≠ name) :
    ∀ l : List (String × α), find other (place name value l) = find other l
  | [] => by simp [place, find, h.symm]
  | e :: rest => by
    unfold place
    split
    · simp [find, h.symm]
    next hn =>
      split
      · simp [find, find_place_other value h rest]
      next he =>
        have : name = e.1 := eq_of_not_lt hn he
        simp [find, h.symm, ← this]

def get? (m : NameMap α) (name : String) : Option α := find name m.entries

/-- Puts `value` under `name`, in place of any earlier value. -/
def insert (m : NameMap α) (name : String) (value : α) : NameMap α :=
  ⟨place name value m.entries, pairwise_place name value m.ascending⟩

/-- The map of some pairs, where the last pair of a name counts. -/
def ofList (pairs : List (String × α)) : NameMap α :=
  pairs.foldl (fun m p => m.insert p.1 p.2) empty

def toList (m : NameMap α) : List (String × α) := m.entries

def names (m : NameMap α) : List String := m.entries.map (·.1)

def size (m : NameMap α) : Nat := m.entries.length

def isEmpty (m : NameMap α) : Bool := m.entries.isEmpty

def contains (m : NameMap α) (name : String) : Bool := (m.get? name).isSome

/-- Adds `amount` to the value under `name`, which counts as zero when absent. -/
def add [Add α] [OfNat α 0] (m : NameMap α) (name : String) (amount : α) : NameMap α :=
  m.insert name ((m.get? name).getD 0 + amount)

/-- The sums of the amounts of each name, added in the order of the list. -/
def tally [Add α] [OfNat α 0] (amounts : List (String × α)) : NameMap α :=
  amounts.foldl (fun m p => m.add p.1 p.2) empty

@[simp] theorem get?_empty (name : String) : (empty : NameMap α).get? name = none := rfl

@[simp] theorem get?_insert_self (m : NameMap α) (name : String) (value : α) :
    (m.insert name value).get? name = some value :=
  find_place_self name value m.entries

theorem get?_insert_other (m : NameMap α) {name other : String} (value : α) (h : other ≠ name) :
    (m.insert name value).get? other = m.get? other :=
  find_place_other value h m.entries

theorem get?_insert (m : NameMap α) (name other : String) (value : α) :
    (m.insert name value).get? other = if other = name then some value else m.get? other := by
  by_cases h : other = name
  · subst h; simp
  · simp [h, get?_insert_other m value h]

end NameMap

end Dataflow
