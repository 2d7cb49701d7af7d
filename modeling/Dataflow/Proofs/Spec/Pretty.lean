/-
The pretty form of a value is the compact form with layout. Without the spaces
and line breaks that stand outside of texts it is the compact form again
(`Json.Sound.squeezed_pretty`), and it is one of the texts of the same tree
(`Json.Sound.spelled_pretty`), so it decodes to the same. What is shown of an
operator that fails is this form of its description
(`OperatorSpec.debugString_squeezed`).
-/
import Dataflow.Proofs.Spec.RoundTrip

namespace Dataflow

namespace Json

open Numeric

/-! ## Without layout -/

/-- Where a character of a JSON text stands. -/
inductive Standing
  | outside
  | inside
  | escaped
  deriving DecidableEq

def Standing.next : Standing → Char → Standing
  | .outside, c => if c = '"' then .inside else .outside
  | .inside, c => if c = '"' then .outside else if c = '\\' then .escaped else .inside
  | .escaped, _ => .inside

def squeezeFrom : Standing → List Char → List Char
  | _, [] => []
  | standing, c :: rest =>
    if standing = .outside ∧ (c = ' ' ∨ c = '\n') then squeezeFrom standing rest
    else c :: squeezeFrom (standing.next c) rest

/-- A JSON text without the spaces and line breaks outside of its texts. -/
def squeeze (text : String) : String := String.ofList (squeezeFrom .outside text.toList)

/-- Between texts, characters are left out so that others remain, whatever follows. -/
def Squeezes (cs ds : List Char) : Prop :=
  ∀ rest, squeezeFrom .outside (cs ++ rest) = ds ++ squeezeFrom .outside rest

namespace Squeezes

theorem append {cs ds cs' ds' : List Char} (h : Squeezes cs ds) (h' : Squeezes cs' ds') :
    Squeezes (cs ++ cs') (ds ++ ds') := fun rest => by
  rw [List.append_assoc, h, h', List.append_assoc]

theorem cons {c : Char} (hc : c ≠ ' ' ∧ c ≠ '\n' ∧ c ≠ '"') {cs ds : List Char} (h : Squeezes cs ds) :
    Squeezes (c :: cs) (c :: ds) := fun rest => by
  rw [List.cons_append, squeezeFrom, if_neg (by simp [hc]), Standing.next, if_neg hc.2.2, h, List.cons_append]

theorem nil : Squeezes [] [] := fun _ => rfl

theorem plain {cs : List Char} (h : ∀ c ∈ cs, c ≠ ' ' ∧ c ≠ '\n' ∧ c ≠ '"') : Squeezes cs cs := by
  induction cs with
  | nil => exact nil
  | cons c cs ih =>
    obtain ⟨hc, hcs⟩ := List.forall_mem_cons.mp h
    exact (ih hcs).cons hc

theorem layout {gap : List Char} (h : ∀ c ∈ gap, c = ' ' ∨ c = '\n') : Squeezes gap [] := by
  induction gap with
  | nil => exact nil
  | cons c gap ih =>
    obtain ⟨hc, hgap⟩ := List.forall_mem_cons.mp h
    intro rest
    rw [List.cons_append, squeezeFrom, if_pos ⟨rfl, hc⟩]
    exact ih hgap rest

theorem lineBreak (depth : Nat) : Squeezes (lineBreak depth) [] := by
  refine layout fun c hc => ?_
  rcases List.mem_cons.mp hc with rfl | hspace
  · exact .inr rfl
  · exact .inl (List.eq_of_mem_replicate hspace)

theorem digits {cs : List Char} (h : AllDigits cs) : Squeezes cs cs := by
  refine plain fun c hc => ?_
  have hdigit := h c hc
  refine ⟨?_, ?_, ?_⟩ <;> rintro rfl <;> cases hdigit

theorem numeral {n : Numeral} (h : n.Sound) : Squeezes n.text n.text := by
  have hsign : Squeezes (if n.negative then ['-'] else []) (if n.negative then ['-'] else []) := by
    split
    · exact nil.cons (by decide)
    · exact nil
  have hfraction : Squeezes (Numeral.fractionText n.fraction) (Numeral.fractionText n.fraction) := by
    unfold Numeral.fractionText
    split
    · exact nil
    · exact (digits h.fraction).cons (by decide)
  have hpower : Squeezes (Numeral.powerText n.power) (Numeral.powerText n.power) := by
    cases hp : n.power with
    | none => exact nil
    | some p =>
      have hmark : Squeezes p.sign.text p.sign.text := by
        cases p.sign with
        | absent => exact nil
        | plus | minus => exact nil.cons (by decide)
      exact (hmark.append (digits (h.power p hp).2)).cons (by decide)
  exact ((hsign.append (digits h.whole)).append hfraction).append hpower

theorem behindColon {cs ds : List Char} (h : Squeezes cs ds) : Squeezes (':' :: ' ' :: cs) (':' :: ds) := by
  have hspace : Squeezes [' '] [] := layout (by simp)
  exact (hspace.append h).cons (by decide)

end Squeezes

theorem squeezeFrom_inside {c : Char} (h : c ≠ '"' ∧ c ≠ '\\') (rest : List Char) :
    squeezeFrom .inside (c :: rest) = c :: squeezeFrom .inside rest := by
  simp [squeezeFrom, Standing.next, h]

theorem squeezeFrom_escaped (c : Char) (rest : List Char) :
    squeezeFrom .inside ('\\' :: c :: rest) = '\\' :: c :: squeezeFrom .inside rest := by
  simp [squeezeFrom, Standing.next]

theorem HexDigit.char_plain (x : HexDigit) : x.char ≠ '"' ∧ x.char ≠ '\\' := by
  obtain ⟨value, upper⟩ := x
  revert value upper
  decide

theorem squeezeFrom_piece (p : Piece) (rest : List Char) :
    squeezeFrom .inside (p.chars ++ rest) = p.chars ++ squeezeFrom .inside rest := by
  cases p with
  | plain c h => exact squeezeFrom_inside ⟨h.1, h.2.1⟩ rest
  | letter c meant h => exact squeezeFrom_escaped c rest
  | code x =>
    simp only [Piece.chars, Code.chars, List.cons_append, List.nil_append, squeezeFrom_escaped,
      squeezeFrom_inside (HexDigit.char_plain _)]

theorem squeezeFrom_pieces (pieces : List Piece) (rest : List Char) :
    squeezeFrom .inside (pieces.flatMap Piece.chars ++ '"' :: rest) =
      pieces.flatMap Piece.chars ++ '"' :: squeezeFrom .outside rest := by
  induction pieces with
  | nil => simp [squeezeFrom, Standing.next]
  | cons p pieces ih => rw [List.flatMap_cons, List.append_assoc, squeezeFrom_piece, ih, List.append_assoc]

theorem Squeezes.text (s : String) : Squeezes (textChars s) (textChars s) := by
  obtain ⟨pieces, hquote, -⟩ := exists_quote s
  intro rest
  simp [← hquote, quote, squeezeFrom, Standing.next, squeezeFrom_pieces]

theorem Squeezes.items {items : List Json} {depth : Nat}
    (h : ∀ item ∈ items, Squeezes (prettyChars (depth + 1) item) (compactChars item)) :
    Squeezes (prettyItems depth items) (compactItems items) := by
  induction items with
  | nil =>
    rw [prettyItems, compactItems]
    exact nil
  | cons item rest ih =>
    obtain ⟨hitem, hrest⟩ := List.forall_mem_cons.mp h
    rw [prettyItems, compactItems]
    exact (((lineBreak (depth + 1)).append hitem).append (ih hrest)).cons (by decide)

theorem Squeezes.members {members : List (String × Json)} {depth : Nat}
    (h : ∀ m ∈ members, Squeezes (prettyChars (depth + 1) m.2) (compactChars m.2)) :
    Squeezes (prettyMembers depth members) (compactMembers members) := by
  induction members with
  | nil =>
    rw [prettyMembers, compactMembers]
    exact nil
  | cons m rest ih =>
    obtain ⟨hm, hrest⟩ := List.forall_mem_cons.mp h
    rw [prettyMembers, compactMembers]
    exact ((((lineBreak (depth + 1)).append (text m.1)).append hm.behindColon).append (ih hrest)).cons (by decide)

/-- **Without its layout, the pretty form is the compact form**, at whatever depth the value stands. -/
theorem Sound.squeezes {j : Json} (h : j.Sound) (depth : Nat) : Squeezes (prettyChars depth j) (compactChars j) := by
  induction h generalizing depth with
  | null =>
    rw [prettyChars, compactChars]
    exact .plain (by simp)
  | bool b => cases b <;> rw [prettyChars, compactChars] <;> exact .plain (by simp)
  | number h =>
    rw [prettyChars, compactChars]
    exact .numeral h
  | text s =>
    rw [prettyChars, compactChars]
    exact .text s
  | @list items _ ih =>
    cases items with
    | nil =>
      rw [prettyChars, compactChars]
      exact .plain (by simp)
    | cons item rest =>
      obtain ⟨hitem, hrest⟩ := List.forall_mem_cons.mp ih
      have hitems := ((Squeezes.lineBreak (depth + 1)).append (hitem (depth + 1))).append
        (Squeezes.items fun next hnext => hrest next hnext (depth + 1))
      have hclose : Squeezes [']'] [']'] := Squeezes.nil.cons (by decide)
      rw [prettyChars, compactChars]
      simpa using ((hitems.append (.lineBreak depth)).append hclose).cons (by decide)
  | @object members _ ih =>
    cases members with
    | nil =>
      rw [prettyChars, compactChars]
      exact .plain (by simp)
    | cons m rest =>
      obtain ⟨hm, hrest⟩ := List.forall_mem_cons.mp ih
      have hfirst := ((Squeezes.lineBreak (depth + 1)).append (.text m.1)).append (hm (depth + 1)).behindColon
      have hmembers := hfirst.append (Squeezes.members fun next hnext => hrest next hnext (depth + 1))
      have hclose : Squeezes ['}'] ['}'] := Squeezes.nil.cons (by decide)
      rw [prettyChars, compactChars]
      simpa using ((hmembers.append (.lineBreak depth)).append hclose).cons (by decide)

theorem Sound.squeezed_pretty {j : Json} (h : j.Sound) : squeeze j.pretty = j.compact := by
  have hall := h.squeezes 0 []
  rw [List.append_nil, squeezeFrom, List.append_nil] at hall
  rw [squeeze, pretty, String.toList_ofList, hall, compact]

-- A quote behind a backslash ends no text, and a backslash behind another one makes no quote part of it.
example : squeeze "\x7b \"a \\\" b\": [\n \"\\\\\" ] \x7d" = "\x7b\"a \\\" b\":[\"\\\\\"]\x7d" := rfl

/-! ## The same tree -/

theorem allSpace_lineBreak (depth : Nat) : AllSpace (lineBreak depth) := by
  intro c hc
  rcases List.mem_cons.mp hc with rfl | hspace
  · exact .inr (.inl rfl)
  · exact .inl (List.eq_of_mem_replicate hspace)

theorem Spelled.behind {gap : List Char} (hgap : AllSpace gap) {d : Doc} {cs : List Char} (h : Spelled d cs) :
    Spelled d (gap ++ cs) := by
  have hpadded : Spelled d (gap ++ cs ++ []) := h.padded hgap (by simp [AllSpace])
  rwa [List.append_nil] at hpadded

theorem Spelled.before {gap : List Char} (hgap : AllSpace gap) {d : Doc} {cs : List Char} (h : Spelled d cs) :
    Spelled d (cs ++ gap) := by
  have hpadded : Spelled d ([] ++ cs ++ gap) := h.padded (by simp [AllSpace]) hgap
  rwa [List.nil_append] at hpadded

theorem intercalate_append (parts : List (List Char)) (last gap : List Char) :
    [','].intercalate (parts ++ [last]) ++ gap = [','].intercalate (parts ++ [last ++ gap]) := by
  induction parts with
  | nil => simp
  | cons part parts ih =>
    cases parts with
    | nil => simp [List.intercalate_cons_cons]
    | cons next parts =>
      simp only [List.cons_append, List.intercalate_cons_cons, List.append_assoc] at ih ⊢
      rw [ih]

theorem Spelled.list_gap {items : List (Doc × List Char)} (hsome : items ≠ []) (h : ∀ i ∈ items, Spelled i.1 i.2)
    {gap : List Char} (hgap : AllSpace gap) :
    Spelled (.list (items.map Prod.fst) .closed) ('[' :: ([','].intercalate (items.map Prod.snd) ++ gap ++ [']'])) := by
  obtain ⟨front, last, rfl⟩ := (List.eq_nil_or_concat' items).resolve_left hsome
  obtain ⟨hfront, hlast⟩ := List.forall_mem_append.mp h
  have hitems : ∀ i ∈ front ++ [(last.1, last.2 ++ gap)], Spelled i.1 i.2 :=
    List.forall_mem_append.mpr ⟨hfront, by simpa using (hlast last (by simp)).before hgap⟩
  have hlist := Spelled.list (by simp) hitems
  rw [List.map_append, List.map_append, List.map_singleton, List.map_singleton, ← intercalate_append] at hlist
  simpa using hlist

theorem Spelled.object_gap {members : List (Key × Doc × List Char)} (hsome : members ≠ [])
    (h : ∀ m ∈ members, Spelled m.2.1 m.2.2) {gap : List Char} (hgap : AllSpace gap) :
    Spelled (.object (members.map fun m => (m.1.name, m.2.1)) .closed)
      ('{' :: ([','].intercalate (members.map fun m => m.1.chars ++ ':' :: m.2.2) ++ gap ++ ['}'])) := by
  obtain ⟨front, last, rfl⟩ := (List.eq_nil_or_concat' members).resolve_left hsome
  obtain ⟨hfront, hlast⟩ := List.forall_mem_append.mp h
  have hmembers : ∀ m ∈ front ++ [(last.1, last.2.1, last.2.2 ++ gap)], Spelled m.2.1 m.2.2 :=
    List.forall_mem_append.mpr ⟨hfront, by simpa using (hlast last (by simp)).before hgap⟩
  have hobject := Spelled.object (by simp) hmembers
  have hchars : last.1.chars ++ ':' :: (last.2.2 ++ gap) = last.1.chars ++ ':' :: last.2.2 ++ gap := by simp
  rw [List.map_append, List.map_append, List.map_singleton, List.map_singleton, hchars, ← intercalate_append] at hobject
  simpa using hobject

theorem prettyItems_eq (depth : Nat) (item : Json) (rest : List Json) :
    lineBreak (depth + 1) ++ prettyChars (depth + 1) item ++ prettyItems depth rest =
      [','].intercalate ((item :: rest).map fun j => lineBreak (depth + 1) ++ prettyChars (depth + 1) j) := by
  have hcons (item : Json) (rest : List Json) : prettyItems depth (item :: rest) =
      ',' :: (lineBreak (depth + 1) ++ prettyChars (depth + 1) item ++ prettyItems depth rest) := by
    rw [prettyItems]
  exact append_eq_intercalate (by rw [prettyItems]) hcons item rest

theorem prettyMembers_eq (depth : Nat) (m : String × Json) (rest : List (String × Json)) :
    lineBreak (depth + 1) ++ textChars m.1 ++ ':' :: ' ' :: prettyChars (depth + 1) m.2 ++ prettyMembers depth rest =
      [','].intercalate ((m :: rest).map fun m =>
        lineBreak (depth + 1) ++ textChars m.1 ++ ':' :: ' ' :: prettyChars (depth + 1) m.2) := by
  have hcons (m : String × Json) (rest : List (String × Json)) : prettyMembers depth (m :: rest) =
      ',' :: (lineBreak (depth + 1) ++ textChars m.1 ++ ':' :: ' ' :: prettyChars (depth + 1) m.2 ++
        prettyMembers depth rest) := by
    rw [prettyMembers]
  exact append_eq_intercalate (by rw [prettyMembers]) hcons m rest

/-- **The pretty form of a value is one of the texts of its tree**, at whatever depth it stands. -/
theorem Sound.spelled_pretty {j : Json} (h : j.Sound) (depth : Nat) : Spelled (toDoc j) (prettyChars depth j) := by
  induction h generalizing depth with
  | null =>
    rw [prettyChars]
    exact .null
  | bool b => cases b <;> rw [prettyChars] <;> exact .bool _
  | number h =>
    rw [prettyChars]
    exact spelled_number h
  | text s =>
    rw [prettyChars]
    exact spelled_text s
  | @list items _ ih =>
    cases items with
    | nil =>
      rw [prettyChars]
      exact .emptyList [] (by simp [AllSpace])
    | cons item rest =>
      have hitems : ∀ i ∈ (item :: rest).map fun j => (toDoc j, lineBreak (depth + 1) ++ prettyChars (depth + 1) j),
          Spelled i.1 i.2 :=
        List.forall_mem_map.mpr fun j hj => (ih j hj (depth + 1)).behind (allSpace_lineBreak _)
      have hlist := Spelled.list_gap (by simp) hitems (allSpace_lineBreak depth)
      rw [List.map_map, List.map_map] at hlist
      simp only [Function.comp_def] at hlist
      rw [toDoc, itemDocs_eq_map, prettyChars, prettyItems_eq]
      exact hlist
  | @object members _ ih =>
    cases members with
    | nil =>
      rw [prettyChars]
      exact .emptyObject [] (by simp [AllSpace])
    | cons m rest =>
      choose key hchars hname using @exists_key_behind (lineBreak (depth + 1)) (allSpace_lineBreak _)
      have hmembers : ∀ i ∈ (m :: rest).map fun m => (key m.1, toDoc m.2, [' '] ++ prettyChars (depth + 1) m.2),
          Spelled i.2.1 i.2.2 :=
        List.forall_mem_map.mpr fun m hm => (ih m hm (depth + 1)).behind (by simp [AllSpace])
      have hobject := Spelled.object_gap (by simp) hmembers (allSpace_lineBreak depth)
      rw [List.map_map, List.map_map] at hobject
      simp only [Function.comp_def, hchars, hname] at hobject
      rw [toDoc, memberDocs_eq_map, prettyChars, prettyMembers_eq]
      exact hobject

theorem Sound.decode_pretty {α : Type} {j : Json} (h : j.Sound) (read : Reader α) :
    read.decode j.pretty = read 127 (toDoc j) :=
  Spelled.decode (by rw [pretty, String.toList_ofList]; exact h.spelled_pretty 0) read

end Json

namespace OperatorSpec

/-- **What is shown of an operator that fails is its compact JSON text with layout only**: without the spaces and line
breaks outside of texts it is that text, and it decodes to the same description, or has the same fault. -/
theorem debugString_squeezed (o : OperatorSpec) :
    Json.squeeze o.debugString = o.toJson.compact ∧ reader.decode o.debugString = reader.decode o.toJson.compact :=
  ⟨o.sound_toJson.squeezed_pretty,
    (o.sound_toJson.decode_pretty reader).trans (o.sound_toJson.decode_compact reader).symm⟩

end OperatorSpec

end Dataflow
