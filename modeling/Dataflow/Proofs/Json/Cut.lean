/-
Texts that end too early. What is read of the compact form of a value, when the text
ends inside of it, is the tree of the value up to that place (`Cut`): the items and
members in front of it are whole, the last one is cut itself or is a shorter numeral,
and what comes behind is missing (`Sound.ofText_cut`).
-/
import Dataflow.Proofs.Json.Broken

namespace Dataflow.Json

open Numeric

mutual

/-- What is read of a value, when the text ends inside of it or before it. -/
inductive Cut : Json → Doc → Prop
  | ended {j : Json} {e : ReadError} (h : e.category = .ended) : Cut j (.broken (.all e))
  /-- A reader that looks at the first character only does not meet the end. -/
  | token {j : Json} {fault : Fault} (hj : ∀ s, j ≠ .text s) (h : fault.asked.category = .ended) :
    Cut j (.broken fault)
  | list {items : List Json} {ds : List Doc} {ending : Ending} (h : CutItems items ds ending) :
    Cut (.list items) (.list ds ending)
  | object {members : List (String × Json)} {ds : List (Except ReadError String × Doc)} {ending : Ending}
    (h : CutMembers members ds ending) : Cut (.object members) (.object ds ending)

inductive CutItems : List Json → List Doc → Ending → Prop
  | none {items : List Json} : CutItems items [] .ended
  | number {n n' : Numeral} {rest : List Json} (h : n.Shortened n') : CutItems (.number n :: rest) [.number n'] .ended
  | last {item : Json} {rest : List Json} {d : Doc} {ending : Ending} (h : Cut item d) :
    CutItems (item :: rest) [d] ending
  | more {item : Json} {rest : List Json} {ds : List Doc} {ending : Ending} (h : CutItems rest ds ending) :
    CutItems (item :: rest) (toDoc item :: ds) ending

inductive CutMembers : List (String × Json) → List (Except ReadError String × Doc) → Ending → Prop
  | none {members : List (String × Json)} {ending : Ending} (h : ending = .ended ∨ ending = .endedAfterComma) :
    CutMembers members [] ending
  | number {key : String} {n n' : Numeral} {rest : List (String × Json)} (h : n.Shortened n') :
    CutMembers ((key, .number n) :: rest) [(.ok key, .number n')] .ended
  | key {m : String × Json} {rest : List (String × Json)} {e : ReadError} {d : Doc} {ending : Ending}
    (h : e.category = .ended) : CutMembers (m :: rest) [(.error e, d)] ending
  | last {key : String} {value : Json} {rest : List (String × Json)} {d : Doc} {ending : Ending} (h : Cut value d) :
    CutMembers ((key, value) :: rest) [(.ok key, d)] ending
  | more {key : String} {value : Json} {rest : List (String × Json)} {ds : List (Except ReadError String × Doc)}
    {ending : Ending} (h : CutMembers rest ds ending) :
    CutMembers ((key, value) :: rest) ((.ok key, toDoc value) :: ds) ending

end

/-- The beginning of a value makes a cut value of it, whatever stands around it, or a shorter numeral. -/
def Breaks (j : Json) (p : List Char) : Prop := ∀ stack awaited, awaited.isValue = true →
  (∃ n n', j = .number n ∧ n.Shortened n' ∧
    assembleFrom (.reading stack awaited) p = putValue (.number n') stack) ∨
  ∃ d skipped, Cut j d ∧ (assembleFrom (.reading stack awaited) p).result.root = foldStack skipped d stack

/-- Wherever the text ends inside of a value, it makes a cut value of it. -/
def BreaksWithin (j : Json) : Prop := ∀ p t, p ≠ [] → t ≠ [] → p ++ t = compactChars j → Breaks j p

/-- The end of the text leaves an open list with its items cut. -/
def LeavesItems (items : List Json) (read : List Doc) (stack : List Frame) (a : Assembly) : Prop :=
  ∃ ds ending skipped, CutItems items ds ending ∧
    a.result.root = foldStack skipped (.list (read.reverse ++ ds) ending) stack

def LeavesMembers (members : List (String × Json)) (read : List (Except ReadError String × Doc)) (stack : List Frame)
    (a : Assembly) : Prop :=
  ∃ ds ending skipped, CutMembers members ds ending ∧
    a.result.root = foldStack skipped (.object (read.reverse ++ ds) ending) stack

/-! ## Values of one token -/

theorem breaks_of_broken {j : Json} {p : List Char} {t : Token} {fault : Fault}
    (hscan : scanFrom .between p = [t]) (ht : t = .broken fault ∨ t = .brokenText fault)
    (hcut : Cut j (.broken fault)) : Breaks j p := by
  intro stack awaited hawaited
  refine .inr ⟨.broken fault, fault.skipped, hcut, ?_⟩
  rw [assembleFrom, hscan, List.foldl_cons, List.foldl_nil]
  rcases ht with rfl | rfl <;> (rw [step_value hawaited (by simp)]; rfl)

theorem breaks_word {j : Json} (hj : ∀ s, j ≠ .text s) {p t : List Char} {c next : Char} {missing : List Char}
    {w : Word} (hstart : startToken c = (.word next missing w, none)) (hp : p ≠ []) (ht : t ≠ [])
    (heq : p ++ t = c :: next :: missing) : Breaks j p := by
  obtain ⟨x, p, rfl⟩ := List.exists_cons_of_ne_nil hp
  obtain ⟨rfl, hrest⟩ := List.cons.inj heq
  have hcut : Cut j (.broken ⟨.endOfValue, .endOfValue, .expectedValue⟩) := .token hj rfl
  refine breaks_of_broken ?_ (.inl rfl) hcut
  rw [scanFrom, stepMode, hstart]
  exact scanFrom_word_cut w hrest ht

theorem breaks_text {s : String} {p t : List Char} (hp : p ≠ []) (ht : t ≠ []) (heq : p ++ t = textChars s) :
    Breaks (.text s) p :=
  breaks_of_broken (scanFrom_text_cut heq hp ht) (.inr rfl) (.ended rfl)

theorem breaks_number {n : Numeral} (h : n.Sound) {p t : List Char} (hp : p ≠ []) (heq : p ++ t = n.text) :
    Breaks (.number n) p := by
  rcases scanFrom_numeral_cut h hp heq with ⟨n', hn', hscan⟩ | hscan
  · intro stack awaited hawaited
    refine .inl ⟨n, n', rfl, hn', ?_⟩
    rw [assembleFrom, hscan, List.foldl_cons, List.foldl_nil, step_value hawaited (by simp)]
    rfl
  · exact breaks_of_broken hscan (.inl rfl) (.token (by simp) rfl)

/-! ## Lists -/

theorem Sound.reads_compact {j : Json} (h : j.Sound) : Reads (toDoc j) (compactChars j) := h.spelled_compact.reads

theorem intercalate_cons (part : List Char) (rest : List (List Char)) :
    [','].intercalate (part :: rest) = part ++ if rest = [] then [] else ',' :: [','].intercalate rest := by
  cases rest with
  | nil => simp
  | cons next rest => simp [List.intercalate_cons_cons]

/-- The items of a list, when the text ends among them. -/
theorem assembleFrom_items_cut {items : List Json} (hsound : ∀ i ∈ items, i.Sound)
    (hbreaks : ∀ i ∈ items, BreaksWithin i) {p t : List Char}
    (heq : p ++ t = [','].intercalate (items.map compactChars)) (read : List Doc) (stack : List Frame)
    {awaited : Awaited} (hawaited : awaited = .firstItem ∨ awaited = .nextItem ∧ items ≠ []) :
    LeavesItems items read stack (assembleFrom (.reading (.list read :: stack) awaited) p) := by
  have hvalue : awaited.isValue = true := by rcases hawaited with rfl | ⟨rfl, -⟩ <;> rfl
  induction items generalizing p read awaited with
  | nil =>
    obtain ⟨rfl, -⟩ := List.append_eq_nil_iff.mp heq
    obtain rfl : awaited = .firstItem := hawaited.resolve_right fun h => h.2 rfl
    exact ⟨[], .ended, _, .none, by rw [List.append_nil]; rfl⟩
  | cons i more ih =>
    obtain ⟨hi, hmore⟩ := List.forall_mem_cons.mp hsound
    obtain ⟨hibreaks, hmorebreaks⟩ := List.forall_mem_cons.mp hbreaks
    rw [List.map_cons, intercalate_cons] at heq
    rcases split_append heq with ⟨c, hc, hcut⟩ | ⟨q, rfl, hq⟩
    · by_cases hp : p = []
      · subst hp
        rcases hawaited with rfl | ⟨rfl, -⟩
        · exact ⟨[], .ended, _, .none, by rw [List.append_nil]; rfl⟩
        · refine ⟨[.broken (.all .endOfValue)], .within .endOfValue, .endOfValue, .last (.ended rfl), ?_⟩
          rw [← List.reverse_cons]
          rfl
      · rcases hibreaks p c hp hc hcut (.list read :: stack) awaited hvalue with
          ⟨n, n', rfl, hn', hput⟩ | ⟨d, skipped, hd, hroot⟩
        · refine ⟨[.number n'], .ended, .endOfList, .number hn', ?_⟩
          rw [hput, ← List.reverse_cons]
          rfl
        · refine ⟨[d], .within skipped, skipped, .last hd, ?_⟩
          rw [hroot, ← List.reverse_cons]
          rfl
    · cases q with
      | nil =>
        -- The item is whole, and a comma or the end could follow.
        refine ⟨[toDoc i], .ended, .endOfList, .more .none, ?_⟩
        rw [hi.reads_compact [] delimited_nil _ _ hvalue, ← List.reverse_cons]
        rfl
      | cons x q =>
        by_cases hlast : more = []
        · subst hlast
          cases hq
        · rw [if_neg (by simpa using hlast)] at hq
          obtain ⟨rfl, hrest⟩ := List.cons.inj hq
          obtain ⟨ds, ending, skipped, hds, hroot⟩ := ih hmore hmorebreaks hrest (toDoc i :: read)
            (.inr ⟨rfl, hlast⟩) rfl
          have hcomma : Assembly.step (putValue (toDoc i) (.list read :: stack)) .comma =
              .reading (.list (toDoc i :: read) :: stack) .nextItem := rfl
          refine ⟨toDoc i :: ds, ending, skipped, .more hds, ?_⟩
          rw [hi.reads_compact _ (delimited_comma q) _ _ hvalue, assembleFrom_token rfl, hcomma, hroot]
          simp

theorem compactChars_list (items : List Json) :
    compactChars (.list items) = '[' :: ([','].intercalate (items.map compactChars) ++ [']']) := by
  cases items with
  | nil => rfl
  | cons item rest => rw [compactChars, compactItems_eq]

theorem breaks_list {items : List Json} (hsound : ∀ i ∈ items, i.Sound) (hbreaks : ∀ i ∈ items, BreaksWithin i) :
    BreaksWithin (.list items) := by
  intro p t hp ht heq stack awaited hawaited
  rw [compactChars_list] at heq
  obtain ⟨x, p, rfl⟩ := List.exists_cons_of_ne_nil hp
  obtain ⟨rfl, hrest⟩ := List.cons.inj heq
  obtain ⟨c, hcut⟩ := split_closed hrest ht
  obtain ⟨ds, ending, skipped, hds, hroot⟩ := assembleFrom_items_cut hsound hbreaks hcut [] stack (.inl rfl)
  refine .inr ⟨_, skipped, .list hds, ?_⟩
  rw [assembleFrom_token rfl, step_value hawaited (by simp)]
  exact hroot

/-! ## Objects -/

theorem assembleFrom_name (key : String) (read : List (Except ReadError String × Doc))
    (last : Except ReadError String) (stack : List Frame) {awaited : Awaited} (hawaited : awaited.isKey = true)
    (rest : List Char) : assembleFrom (.reading (.object read last :: stack) awaited) (textChars key ++ rest) =
      assembleFrom (.reading (.object read (.ok key) :: stack) .colon) rest := by
  obtain ⟨pieces, hquote, hname⟩ := exists_quote key
  rw [← hquote, assembleFrom_token (scanFrom_quote _ _), step_key hawaited, hname]

theorem assembleFrom_colon (key : String) (read : List (Except ReadError String × Doc)) (stack : List Frame)
    (rest : List Char) : assembleFrom (.reading (.object read (.ok key) :: stack) .colon) (':' :: rest) =
      assembleFrom (.reading (.object read (.ok key) :: stack) .value) rest := by
  rw [assembleFrom_token rfl]
  rfl

theorem assembleFrom_member_cut {key : String} {value : Json} (rest : List (String × Json))
    (hbreaks : BreaksWithin value) {p t : List Char} (hp : p ≠ []) (ht : t ≠ [])
    (heq : p ++ t = textChars key ++ ':' :: compactChars value) (read : List (Except ReadError String × Doc))
    (last : Except ReadError String) (stack : List Frame) {awaited : Awaited} (hawaited : awaited.isKey = true) :
    LeavesMembers ((key, value) :: rest) read stack
      (assembleFrom (.reading (.object read last :: stack) awaited) p) := by
  rcases split_append heq with ⟨c, hc, hcut⟩ | ⟨q, rfl, hq⟩
  · -- The text ends inside of the key.
    refine ⟨[(.error .endOfText, .broken (.all .endOfText))], .within .endOfText, .endOfText, .key rfl, ?_⟩
    rw [assembleFrom, scanFrom_text_cut hcut hp hc, List.foldl_cons, List.foldl_nil, ← List.reverse_cons]
    cases awaited with
    | firstKey | nextKey => rfl
    | _ => cases hawaited
  rw [assembleFrom_name key read last stack hawaited]
  cases q with
  | nil =>
    refine ⟨[(.ok key, .broken (.all .endOfObject))], .within .endOfObject, .endOfObject, .last (.ended rfl), ?_⟩
    rw [← List.reverse_cons]
    rfl
  | cons x q =>
    obtain ⟨rfl, hvalue⟩ := List.cons.inj hq
    rw [assembleFrom_colon]
    by_cases hnone : q = []
    · subst hnone
      refine ⟨[(.ok key, .broken (.all .endOfValue))], .within .endOfValue, .endOfValue, .last (.ended rfl), ?_⟩
      rw [← List.reverse_cons]
      rfl
    · rcases hbreaks q t hnone ht hvalue (.object read (.ok key) :: stack) .value rfl with
        ⟨n, n', rfl, hn', hput⟩ | ⟨d, skipped, hd, hroot⟩
      · refine ⟨[(.ok key, .number n')], .ended, .endOfObject, .number hn', ?_⟩
        rw [hput, ← List.reverse_cons]
        rfl
      · refine ⟨[(.ok key, d)], .within skipped, skipped, .last hd, ?_⟩
        rw [hroot, ← List.reverse_cons]
        rfl

theorem leavesMembers_none (members : List (String × Json)) (read : List (Except ReadError String × Doc))
    (last : Except ReadError String) (stack : List Frame) {awaited : Awaited} (hawaited : awaited.isKey = true) :
    LeavesMembers members read stack (assembleFrom (.reading (.object read last :: stack) awaited) []) := by
  cases awaited with
  | firstKey => exact ⟨[], .ended, _, .none (.inl rfl), by rw [List.append_nil]; rfl⟩
  | nextKey => exact ⟨[], .endedAfterComma, _, .none (.inr rfl), by rw [List.append_nil]; rfl⟩
  | _ => cases hawaited

/-- The members of an object, when the text ends among them. -/
theorem assembleFrom_members_cut {members : List (String × Json)} (hsound : ∀ m ∈ members, m.2.Sound)
    (hbreaks : ∀ m ∈ members, BreaksWithin m.2) {p t : List Char}
    (heq : p ++ t = [','].intercalate (members.map fun m => textChars m.1 ++ ':' :: compactChars m.2))
    (read : List (Except ReadError String × Doc)) (last : Except ReadError String) (stack : List Frame)
    {awaited : Awaited} (hawaited : awaited.isKey = true) :
    LeavesMembers members read stack (assembleFrom (.reading (.object read last :: stack) awaited) p) := by
  induction members generalizing p read last awaited with
  | nil =>
    obtain ⟨rfl, -⟩ := List.append_eq_nil_iff.mp heq
    exact leavesMembers_none [] read last stack hawaited
  | cons m more ih =>
    obtain ⟨key, value⟩ := m
    obtain ⟨hm, hmore⟩ := List.forall_mem_cons.mp hsound
    obtain ⟨hmbreaks, hmorebreaks⟩ := List.forall_mem_cons.mp hbreaks
    rw [List.map_cons, intercalate_cons] at heq
    by_cases hp : p = []
    · subst hp
      exact leavesMembers_none _ read last stack hawaited
    rcases split_append heq with ⟨c, hc, hcut⟩ | ⟨q, rfl, hq⟩
    · exact assembleFrom_member_cut more hmbreaks hp hc hcut read last stack hawaited
    · rw [List.append_assoc, assembleFrom_name key read last stack hawaited, List.cons_append, assembleFrom_colon]
      cases q with
      | nil =>
        -- The member is whole, and a comma or the end could follow.
        refine ⟨[(.ok key, toDoc value)], .ended, .endOfObject, .more (.none (.inl rfl)), ?_⟩
        rw [hm.reads_compact [] delimited_nil _ _ rfl, ← List.reverse_cons]
        rfl
      | cons x q =>
        by_cases hlast : more = []
        · subst hlast
          cases hq
        · rw [if_neg (by simpa using hlast)] at hq
          obtain ⟨rfl, hrest⟩ := List.cons.inj hq
          obtain ⟨ds, ending, skipped, hds, hroot⟩ := ih hmore hmorebreaks hrest ((.ok key, toDoc value) :: read)
            (.ok key) (show Awaited.isKey .nextKey = true from rfl)
          have hcomma : Assembly.step (putValue (toDoc value) (.object read (.ok key) :: stack)) .comma =
              .reading (.object ((.ok key, toDoc value) :: read) (.ok key) :: stack) .nextKey := rfl
          refine ⟨(.ok key, toDoc value) :: ds, ending, skipped, .more hds, ?_⟩
          rw [hm.reads_compact _ (delimited_comma q) _ _ rfl, assembleFrom_token rfl, hcomma, hroot]
          simp

theorem compactChars_object (members : List (String × Json)) :
    compactChars (.object members) =
      '{' :: ([','].intercalate (members.map fun m => textChars m.1 ++ ':' :: compactChars m.2) ++ ['}']) := by
  cases members with
  | nil => rfl
  | cons m rest => rw [compactChars, compactMembers_eq]

theorem breaks_object {members : List (String × Json)} (hsound : ∀ m ∈ members, m.2.Sound)
    (hbreaks : ∀ m ∈ members, BreaksWithin m.2) : BreaksWithin (.object members) := by
  intro p t hp ht heq stack awaited hawaited
  rw [compactChars_object] at heq
  obtain ⟨x, p, rfl⟩ := List.exists_cons_of_ne_nil hp
  obtain ⟨rfl, hrest⟩ := List.cons.inj heq
  obtain ⟨c, hcut⟩ := split_closed hrest ht
  obtain ⟨ds, ending, skipped, hds, hroot⟩ := assembleFrom_members_cut hsound hbreaks hcut [] (.ok "") stack
    (show Awaited.isKey .firstKey = true from rfl)
  refine .inr ⟨_, skipped, .object hds, ?_⟩
  rw [assembleFrom_token rfl, step_value hawaited (by simp)]
  exact hroot

/-! ## All values -/

/-- **The beginning of the compact form of a value makes a cut value.** -/
theorem Sound.breaks {j : Json} (h : j.Sound) : BreaksWithin j := by
  induction h with
  | null => exact fun p t hp ht heq => breaks_word (by simp) rfl hp ht heq
  | bool b =>
    cases b with
    | true => exact fun p t hp ht heq => breaks_word (by simp) rfl hp ht heq
    | false => exact fun p t hp ht heq => breaks_word (by simp) rfl hp ht heq
  | number hn => exact fun p t hp _ heq => breaks_number hn hp heq
  | text s => exact fun p t hp ht heq => breaks_text hp ht heq
  | list hitems ih => exact breaks_list hitems ih
  | object hmembers ih => exact breaks_object hmembers ih

/-- **A text that ends inside of the compact form of a value reads as the value, cut**, unless this is a
numeral and ends behind one of its digits. -/
theorem Sound.ofText_cut {j : Json} (h : j.Sound) {text rest : String} (heq : text ++ rest = j.compact)
    (hrest : rest ≠ "") :
    (∃ n n', j = .number n ∧ n.Shortened n' ∧ Reading.ofText text = ⟨.number n', false⟩) ∨
      Cut j (Reading.ofText text).root := by
  have hread : Reading.ofText text = (assembleFrom (.reading [] .value) text.toList).result := by
    rw [Reading.ofText, assemble, scan_eq]
    rfl
  have hchars : text.toList ++ rest.toList = compactChars j := by
    rw [← String.toList_append, heq, compact, String.toList_ofList]
  rw [hread]
  by_cases hnone : text.toList = []
  · rw [hnone]
    exact .inr (.ended rfl)
  · have hmissing : rest.toList ≠ [] := fun h => hrest (String.toList_eq_nil_iff.mp h)
    rcases h.breaks _ _ hnone hmissing hchars [] .value rfl with ⟨n, n', hj, hn', hput⟩ | ⟨d, skipped, hd, hroot⟩
    · exact .inl ⟨n, n', hj, hn', by rw [hput]; rfl⟩
    · rw [hroot]
      exact .inr hd

end Dataflow.Json
