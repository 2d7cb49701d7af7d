/-
Name maps are what they give: two maps with the same value under every name are
equal (`NameMap.ext_get?`), so insertions under different names may be
exchanged. A map is also made again from its entries (`ofList_toList`). A tally
gives the sum of the amounts of a name, in their order (`get?_tally`).
-/
import Mathlib.Algebra.BigOperators.Group.List.Lemmas
import Mathlib.Data.List.Induction
import Dataflow.NameMap

namespace Dataflow.NameMap

variable {α : Type}

theorem find_eq_none {name : String} : ∀ {l : List (String × α)}, (∀ e ∈ l, name < e.1) → find name l = none
  | [], _ => rfl
  | e :: rest, h => by
    have hne : e.1 ≠ name := fun he => String.lt_irrefl name (he ▸ h e (by simp))
    rw [find, if_neg hne]
    exact find_eq_none fun e' he' => h e' (by simp [he'])

theorem find_cons_self (e : String × α) (rest : List (String × α)) : find e.1 (e :: rest) = some e.2 := by
  rw [find, if_pos rfl]

/-- Lists in ascending order with the same value under every name are equal. -/
theorem eq_of_find_eq : ∀ {l l' : List (String × α)}, l.Pairwise (fun a b => a.1 < b.1) →
    l'.Pairwise (fun a b => a.1 < b.1) → (∀ name, find name l = find name l') → l = l'
  | [], [], _, _, _ => rfl
  | [], e' :: rest', _, _, h => by
    have := h e'.1
    rw [find_cons_self] at this
    cases this
  | e :: rest, [], _, _, h => by
    have := h e.1
    rw [find_cons_self] at this
    cases this
  | e :: rest, e' :: rest', hl, hl', h => by
    have ⟨hlt, hrest⟩ := List.pairwise_cons.mp hl
    have ⟨hlt', hrest'⟩ := List.pairwise_cons.mp hl'
    -- The smaller first name would be missing in the other list.
    have missing : ∀ {a b : String × α} {as bs : List (String × α)}, (∀ x ∈ bs, b.1 < x.1) → a.1 < b.1 →
        find a.1 (a :: as) = find a.1 (b :: bs) → False := by
      intro a b as bs hbs hab heq
      rw [find_cons_self, find_eq_none] at heq
      · cases heq
      · intro x hx
        rcases List.mem_cons.mp hx with rfl | hx
        · exact hab
        · exact String.lt_trans hab (hbs x hx)
    have hname : e.1 = e'.1 :=
      eq_of_not_lt (fun hlt₁ => missing hlt' hlt₁ (h e.1)) fun hlt₁ => missing hlt hlt₁ (h e'.1).symm
    have hvalue : e.2 = e'.2 := by
      have := h e.1
      rw [find_cons_self, hname, find_cons_self] at this
      exact Option.some.inj this
    have htail : rest = rest' := by
      refine eq_of_find_eq hrest hrest' fun name => ?_
      by_cases hn : e.1 = name
      · rw [find_eq_none fun x hx => hn ▸ hlt x hx, find_eq_none fun x hx => hn ▸ hname ▸ hlt' x hx]
      · have := h name
        rwa [find, find, if_neg hn, if_neg (hname ▸ hn)] at this
    rw [htail, Prod.ext hname hvalue]

theorem ext_entries {a b : NameMap α} (h : a.entries = b.entries) : a = b := by
  cases a; cases b; simp_all

/-- **Maps with the same value under every name are equal.** -/
theorem ext_get? {a b : NameMap α} (h : ∀ name, a.get? name = b.get? name) : a = b :=
  ext_entries (eq_of_find_eq a.ascending b.ascending h)

theorem insert_comm (m : NameMap α) {name other : String} (h : name ≠ other) (x y : α) :
    (m.insert name x).insert other y = (m.insert other y).insert name x := by
  refine ext_get? fun n => ?_
  simp only [get?_insert]
  by_cases hn : n = name
  · simp [hn, h]
  · simp [hn]

/-! ## Entries in ascending order -/

theorem place_last {name : String} (value : α) :
    ∀ {l : List (String × α)}, (∀ e ∈ l, e.1 < name) → place name value l = l ++ [(name, value)]
  | [], _ => rfl
  | e :: rest, h => by
    obtain ⟨he, hrest⟩ := List.forall_mem_cons.mp h
    rw [place, if_neg (String.lt_asymm he), if_pos he, place_last value hrest]
    rfl

theorem foldl_insert : ∀ {l : List (String × α)} {m : NameMap α}, (m.entries ++ l).Pairwise (fun a b => a.1 < b.1) →
    (l.foldl (fun m e => m.insert e.1 e.2) m).entries = m.entries ++ l
  | [], m, _ => (List.append_nil _).symm
  | e :: rest, m, h => by
    have hlast : ∀ x ∈ m.entries, x.1 < e.1 := fun x hx => (List.pairwise_append.mp h).2.2 x hx e (by simp)
    have hplaced : (m.insert e.1 e.2).entries = m.entries ++ [e] := place_last e.2 hlast
    have hrest : ((m.insert e.1 e.2).entries ++ rest).Pairwise (fun a b => a.1 < b.1) := by
      rw [hplaced, List.append_assoc]
      exact h
    rw [List.foldl_cons, foldl_insert hrest, hplaced, List.append_assoc]
    rfl

/-- **A map is made from its entries.** -/
theorem ofList_toList (m : NameMap α) : ofList m.toList = m := ext_entries (foldl_insert m.ascending)

def mapValues (m : NameMap α) (f : α → α) : NameMap α where
  entries := m.entries.map fun e => (e.1, f e.2)
  ascending := List.pairwise_map.mpr m.ascending

theorem mapValues_eq_self {m : NameMap α} {f : α → α} : m.mapValues f = m ↔ ∀ e ∈ m.entries, f e.2 = e.2 := by
  have hentry (e : String × α) : (e.1, f e.2) = e ↔ f e.2 = e.2 := by simp [Prod.ext_iff]
  simp only [← hentry]
  constructor
  · intro h e he
    have hmap : m.entries.map (fun e => (e.1, f e.2)) = m.entries.map id :=
      (congrArg entries h).trans (List.map_id _).symm
    exact List.map_inj_left.mp hmap e he
  · exact fun h => ext_entries ((List.map_congr_left h).trans (List.map_id _))

/-! ## Names -/

theorem mem_entries {m : NameMap α} {e : String × α} : e ∈ m.entries ↔ m.get? e.1 = some e.2 := by
  obtain ⟨l, hl⟩ := m
  change e ∈ l ↔ find e.1 l = some e.2
  induction l with
  | nil => simp [find]
  | cons e' rest ih =>
    obtain ⟨hlt, hrest⟩ := List.pairwise_cons.mp hl
    rw [List.mem_cons, ih hrest, find]
    split
    next heq =>
      have hother : find e.1 rest = none := find_eq_none (heq ▸ hlt)
      simp [hother, Prod.ext_iff, heq, eq_comm]
    next hne =>
      have hother : e ≠ e' := fun h => hne (h ▸ rfl)
      simp [hother]

theorem mem_names {m : NameMap α} {name : String} : name ∈ m.names ↔ (m.get? name).isSome := by
  rw [names, List.mem_map, Option.isSome_iff_exists]
  constructor
  · rintro ⟨e, he, rfl⟩
    exact ⟨e.2, mem_entries.mp he⟩
  · rintro ⟨value, hvalue⟩
    exact ⟨(name, value), mem_entries.mpr hvalue, rfl⟩

theorem names_nodup (m : NameMap α) : m.names.Nodup :=
  List.pairwise_map.mpr (m.ascending.imp String.ne_of_lt)

/-- **A map is made from its entries in any order.** -/
theorem ofList_perm {m : NameMap α} {entries : List (String × α)} (h : entries.Perm m.entries) :
    ofList entries = m := by
  refine (h.foldl_eq' (fun e he e' he' made => ?_) empty).trans m.ofList_toList
  by_cases hname : e.1 = e'.1
  · have hvalue : some e.2 = some e'.2 := by
      rw [← mem_entries.mp (h.mem_iff.mp he), ← mem_entries.mp (h.mem_iff.mp he'), hname]
    rw [Prod.ext hname (Option.some.inj hvalue)]
  · exact insert_comm made hname e.2 e'.2

/-! ## Sums by name -/

def amountsOf (amounts : List (String × α)) (name : String) : List α :=
  (amounts.filter fun p => p.1 = name).map Prod.snd

theorem amountsOf_of_not_mem {amounts : List (String × α)} {name : String} (h : name ∉ amounts.map Prod.fst) :
    amountsOf amounts name = [] := by
  rw [amountsOf, List.filter_eq_nil_iff.mpr, List.map_nil]
  intro p hp hname
  exact h (List.mem_map.mpr ⟨p, hp, of_decide_eq_true hname⟩)

theorem amountsOf_concat (amounts : List (String × α)) (p : String × α) (name : String) :
    amountsOf (amounts ++ [p]) name =
      if p.1 = name then amountsOf amounts name ++ [p.2] else amountsOf amounts name := by
  rw [amountsOf, List.filter_append, List.map_append, ← amountsOf]
  split
  next h => simp [h]
  next h => simp [h]

/-- **Every amount is counted under its own name only**: the sums of the names add up to the sum of all. -/
theorem sum_amountsOf [AddCommMonoid α] {amounts : List (String × α)} {names : List String} (hnames : names.Nodup)
    (h : ∀ p ∈ amounts, p.1 ∈ names) :
    (names.map fun name => (amountsOf amounts name).sum).sum = (amounts.map Prod.snd).sum := by
  induction amounts with
  | nil => simp [amountsOf]
  | cons p rest ih =>
    obtain ⟨hp, hrest⟩ := List.forall_mem_cons.mp h
    have hcons : ∀ name, (amountsOf (p :: rest) name).sum =
        (if p.1 = name then p.2 else 0) + (amountsOf rest name).sum := by
      intro name
      rw [amountsOf, List.filter_cons, amountsOf]
      by_cases hname : p.1 = name <;> simp [hname]
    have hself : (names.map fun name => if p.1 = name then p.2 else 0).sum = p.2 := by
      rw [List.sum_map_eq_nsmul_single p.1 _ fun name hne _ => if_neg hne.symm, List.count_eq_one_of_mem hnames hp,
        one_nsmul, if_pos rfl]
    simp only [hcons, List.sum_map_add, hself, ih hrest, List.map_cons, List.sum_cons]

section Tally

variable [Add α] [OfNat α 0]

theorem tally_concat (amounts : List (String × α)) (p : String × α) :
    tally (amounts ++ [p]) = (tally amounts).add p.1 p.2 := by
  rw [tally, List.foldl_append]
  rfl

/-- **A tally gives the sum of the amounts of a name**, and nothing for a name without amounts. -/
theorem get?_tally (amounts : List (String × α)) (name : String) :
    (tally amounts).get? name =
      if name ∈ amounts.map Prod.fst then some ((amountsOf amounts name).foldl (· + ·) 0) else none := by
  induction amounts using List.reverseRecOn with
  | nil => rfl
  | append_singleton amounts p ih =>
    have hsum : ((tally amounts).get? name).getD 0 = (amountsOf amounts name).foldl (· + ·) 0 := by
      rw [ih]
      split
      · rfl
      next h => rw [amountsOf_of_not_mem h]; rfl
    rw [tally_concat, add, get?_insert, amountsOf_concat]
    by_cases hname : name = p.1
    · subst hname
      simp [hsum]
    · have hmem : name ∈ (amounts ++ [p]).map Prod.fst ↔ name ∈ amounts.map Prod.fst := by simp [hname]
      rw [if_neg hname, if_neg (Ne.symm hname), ih]
      simp only [hmem]

theorem mem_names_tally {amounts : List (String × α)} {name : String} :
    name ∈ (tally amounts).names ↔ name ∈ amounts.map Prod.fst := by
  rw [mem_names, get?_tally]
  split <;> simp_all

end Tally

end Dataflow.NameMap
