/-
The tokens of a JSON text, put together, make the tree that the text spells and
leave the brackets around it as they were (`Spelled.reads`). So the text reads
as its tree, with nothing left over (`Spelled.ofText`). The compact form of a
value is one of the texts of its tree (`Sound.spelled_compact`).
-/
import Dataflow.Json.Basic
import Dataflow.Json.Reader
import Dataflow.Proofs.Json.Scan
import Mathlib.Tactic.Choose

namespace Dataflow.Json

open Numeric

/-! ## Putting together -/

/-- What the tokens of a text make of what is read so far. -/
def assembleFrom (a : Assembly) (cs : List Char) : Assembly := (scanFrom .between cs).foldl Assembly.step a

theorem assembleFrom_token {cs rest : List Char} {t : Token} (h : scanFrom .between cs = t :: scanFrom .between rest)
    (a : Assembly) : assembleFrom a cs = assembleFrom (a.step t) rest := by
  rw [assembleFrom, h, List.foldl_cons]
  rfl

theorem assembleFrom_blanks {gap : List Char} (h : AllSpace gap) (a : Assembly) (rest : List Char) :
    assembleFrom a (gap ++ rest) = assembleFrom a rest := by
  rw [assembleFrom, scanFrom_blanks h, assembleFrom]

def Awaited.isValue : Awaited → Bool
  | .value | .firstItem | .nextItem => true
  | _ => false

/-- A token that is no closing bracket is taken alike wherever a value may stand. -/
theorem step_value {awaited : Awaited} (h : awaited.isValue = true) {t : Token} (ht : t ≠ .closeList)
    (stack : List Frame) : Assembly.step (.reading stack awaited) t = stepValue stack t := by
  cases awaited with
  | value => rfl
  | firstItem | nextItem => cases t <;> first | rfl | exact absurd rfl ht
  | _ => cases h

def Awaited.isKey : Awaited → Bool
  | .firstKey | .nextKey => true
  | _ => false

theorem step_key {awaited : Awaited} (h : awaited.isKey = true) (read : List (Except ReadError String × Doc))
    (last name : Except ReadError String) (stack : List Frame) :
    Assembly.step (.reading (.object read last :: stack) awaited) (.text name) =
      .reading (.object read name :: stack) .colon := by
  cases awaited with
  | firstKey | nextKey => rfl
  | _ => cases h

/-- A text puts its tree at its place, whatever follows it. -/
def Reads (d : Doc) (cs : List Char) : Prop := ∀ rest, Delimited rest → ∀ stack awaited, awaited.isValue = true →
  assembleFrom (.reading stack awaited) (cs ++ rest) = assembleFrom (putValue d stack) rest

theorem delimited_comma (rest : List Char) : Delimited (',' :: rest) := by simp [Delimited]

theorem delimited_closeList (rest : List Char) : Delimited (']' :: rest) := by simp [Delimited]

theorem delimited_closeObject (rest : List Char) : Delimited ('}' :: rest) := by simp [Delimited]

/-- The items of a list that is open, up to its end. -/
theorem assembleFrom_items {items : List (Doc × List Char)} (hsome : items ≠ [])
    (h : ∀ i ∈ items, Reads i.1 i.2) (read : List Doc) (stack : List Frame) {awaited : Awaited}
    (hawaited : awaited.isValue = true) (rest : List Char) :
    assembleFrom (.reading (.list read :: stack) awaited) ([','].intercalate (items.map Prod.snd) ++ ']' :: rest) =
      assembleFrom (putValue (.list (read.reverse ++ items.map Prod.fst) .closed) stack) rest := by
  induction items generalizing read awaited with
  | nil => exact absurd rfl hsome
  | cons i more ih =>
    obtain ⟨hi, hmore⟩ := List.forall_mem_cons.mp h
    cases more with
    | nil =>
      have hclose : Assembly.step (putValue i.1 (.list read :: stack)) .closeList =
          putValue (.list (read.reverse ++ [i.1]) .closed) stack := by
        simp [putValue, Frame.withValue, Assembly.step, stepSeparator, closeFrame, Frame.close]
      have hlast := hi (']' :: rest) (delimited_closeList rest) (.list read :: stack) awaited hawaited
      simp only [List.map_cons, List.map_nil, List.intercalate_singleton]
      rw [hlast, assembleFrom_token rfl, hclose]
    | cons next more =>
      have hcomma : Assembly.step (putValue i.1 (.list read :: stack)) .comma =
          .reading (.list (i.1 :: read) :: stack) .nextItem := rfl
      have hsplit : [','].intercalate ((i :: next :: more).map Prod.snd) ++ ']' :: rest =
          i.2 ++ ',' :: ([','].intercalate ((next :: more).map Prod.snd) ++ ']' :: rest) := by
        simp [List.intercalate_cons_cons]
      rw [hsplit, hi _ (delimited_comma _) _ _ hawaited, assembleFrom_token rfl, hcomma,
        ih (List.cons_ne_nil _ _) hmore (i.1 :: read) rfl]
      simp

theorem assembleFrom_key (k : Key) (read : List (Except ReadError String × Doc)) (last : Except ReadError String)
    (stack : List Frame) {awaited : Awaited} (hawaited : awaited.isKey = true) (rest : List Char) :
    assembleFrom (.reading (.object read last :: stack) awaited) (k.chars ++ ':' :: rest) =
      assembleFrom (.reading (.object read k.name :: stack) .value) rest := by
  have hcolon : Assembly.step (.reading (.object read k.name :: stack) .colon) .colon =
      .reading (.object read k.name :: stack) .value := rfl
  simp only [Key.chars, List.append_assoc]
  rw [assembleFrom_blanks k.blank.1, assembleFrom_token (scanFrom_quote _ _), step_key hawaited,
    assembleFrom_blanks k.blank.2, assembleFrom_token rfl]
  exact congrArg (assembleFrom · rest) hcolon

theorem assembleFrom_members {members : List (Key × Doc × List Char)} (hsome : members ≠ [])
    (h : ∀ m ∈ members, Reads m.2.1 m.2.2) (read : List (Except ReadError String × Doc))
    (last : Except ReadError String) (stack : List Frame) {awaited : Awaited} (hawaited : awaited.isKey = true)
    (rest : List Char) :
    assembleFrom (.reading (.object read last :: stack) awaited)
        ([','].intercalate (members.map fun m => m.1.chars ++ ':' :: m.2.2) ++ '}' :: rest) =
      assembleFrom
        (putValue (.object (read.reverse ++ members.map fun m => (m.1.name, m.2.1)) .closed) stack) rest := by
  induction members generalizing read last awaited with
  | nil => exact absurd rfl hsome
  | cons m more ih =>
    obtain ⟨hm, hmore⟩ := List.forall_mem_cons.mp h
    cases more with
    | nil =>
      have hclose : Assembly.step (putValue m.2.1 (.object read m.1.name :: stack)) .closeObject =
          putValue (.object (read.reverse ++ [(m.1.name, m.2.1)]) .closed) stack := by
        simp [putValue, Frame.withValue, Assembly.step, stepSeparator, closeFrame, Frame.close]
      simp only [List.map_cons, List.map_nil, List.intercalate_singleton, List.append_assoc, List.cons_append]
      rw [assembleFrom_key _ _ _ _ hawaited, hm _ (delimited_closeObject rest) _ _ rfl, assembleFrom_token rfl, hclose]
    | cons next more =>
      have hcomma : Assembly.step (putValue m.2.1 (.object read m.1.name :: stack)) .comma =
          .reading (.object ((m.1.name, m.2.1) :: read) m.1.name :: stack) .nextKey := rfl
      have hsplit : [','].intercalate ((m :: next :: more).map fun m => m.1.chars ++ ':' :: m.2.2) ++ '}' :: rest =
          m.1.chars ++ ':' :: (m.2.2 ++
            ',' :: ([','].intercalate ((next :: more).map fun m => m.1.chars ++ ':' :: m.2.2) ++ '}' :: rest)) := by
        simp [List.intercalate_cons_cons]
      rw [hsplit, assembleFrom_key _ _ _ _ hawaited, hm _ (delimited_comma _) _ _ rfl, assembleFrom_token rfl, hcomma,
        ih (List.cons_ne_nil _ _) hmore _ _ rfl]
      simp

theorem reads_token {d : Doc} {cs : List Char} {t : Token} (hclose : t ≠ .closeList)
    (hscan : ∀ rest, Delimited rest → scanFrom .between (cs ++ rest) = t :: scanFrom .between rest)
    (hput : ∀ stack, stepValue stack t = putValue d stack) : Reads d cs := by
  intro rest hrest stack awaited hawaited
  rw [assembleFrom_token (hscan rest hrest), step_value hawaited hclose, hput]

/-- **A text makes the tree that it spells.** -/
theorem Spelled.reads {d : Doc} {cs : List Char} (h : Spelled d cs) : Reads d cs := by
  induction h with
  | null => exact reads_token (t := .word .null) (by simp) (fun _ _ => rfl) fun _ => rfl
  | bool b =>
    cases b with
    | true => exact reads_token (t := .word .true) (by simp) (fun _ _ => rfl) fun _ => rfl
    | false => exact reads_token (t := .word .false) (by simp) (fun _ _ => rfl) fun _ => rfl
  | number hn hmark => exact reads_token (by simp) (fun _ hrest => scanFrom_numeral hn hmark hrest) fun _ => rfl
  | text pieces => exact reads_token (by simp) (fun rest _ => scanFrom_quote pieces rest) fun _ => rfl
  | emptyList _ hgap =>
    intro rest _ stack awaited hawaited
    simp only [List.cons_append, List.append_assoc, List.nil_append]
    rw [assembleFrom_token rfl, step_value hawaited (by simp), assembleFrom_blanks hgap, assembleFrom_token rfl]
    rfl
  | list hsome _ ih =>
    intro rest _ stack awaited hawaited
    simp only [List.cons_append, List.append_assoc, List.nil_append]
    rw [assembleFrom_token rfl, step_value hawaited (by simp)]
    exact assembleFrom_items hsome ih [] stack rfl rest
  | emptyObject _ hgap =>
    intro rest _ stack awaited hawaited
    simp only [List.cons_append, List.append_assoc, List.nil_append]
    rw [assembleFrom_token rfl, step_value hawaited (by simp), assembleFrom_blanks hgap, assembleFrom_token rfl]
    rfl
  | object hsome _ ih =>
    intro rest _ stack awaited hawaited
    simp only [List.cons_append, List.append_assoc, List.nil_append]
    rw [assembleFrom_token rfl, step_value hawaited (by simp)]
    exact assembleFrom_members hsome ih [] (.ok "") stack rfl rest
  | padded hbefore hafter _ ih =>
    intro rest hrest stack awaited hawaited
    simp only [List.append_assoc]
    rw [assembleFrom_blanks hbefore, ih _ (hrest.blanks hafter) _ _ hawaited, assembleFrom_blanks hafter]

/-- **A text reads as its tree.** -/
theorem Spelled.ofText {d : Doc} {text : String} (h : Spelled d text.toList) : Reading.ofText text = ⟨d, false⟩ := by
  have hread := h.reads [] (by simp [Delimited]) [] .value rfl
  rw [List.append_nil] at hread
  rw [Reading.ofText, assemble, scan_eq]
  exact congrArg Assembly.result hread

theorem Spelled.decode {α : Type} {d : Doc} {text : String} (h : Spelled d text.toList) (read : Reader α) :
    read.decode text = read 127 d := by
  simp only [Reader.decode, h.ofText]
  cases read 127 d <;> rfl

/-! ## The tree of a value -/

mutual

/-- The tree of a value. -/
def toDoc : Json → Doc
  | .null => .null
  | .bool b => .bool b
  | .number n => .number n
  | .text s => .text (.ok s)
  | .list items => .list (itemDocs items) .closed
  | .object members => .object (memberDocs members) .closed

def itemDocs : List Json → List Doc
  | [] => []
  | item :: rest => toDoc item :: itemDocs rest

def memberDocs : List (String × Json) → List (Except ReadError String × Doc)
  | [] => []
  | (key, value) :: rest => (.ok key, toDoc value) :: memberDocs rest

end

theorem itemDocs_eq_map (items : List Json) : itemDocs items = items.map toDoc := by
  induction items with
  | nil => rfl
  | cons item rest ih => rw [itemDocs, ih, List.map_cons]

theorem memberDocs_eq_map (members : List (String × Json)) :
    memberDocs members = members.map fun m => (.ok m.1, toDoc m.2) := by
  induction members with
  | nil => rfl
  | cons m rest ih => rw [memberDocs, ih, List.map_cons]

inductive Sound : Json → Prop
  | null : Sound .null
  | bool (b : Bool) : Sound (.bool b)
  | number {n : Numeral} : n.Sound → Sound (.number n)
  | text (s : String) : Sound (.text s)
  | list {items : List Json} : (∀ item ∈ items, Sound item) → Sound (.list items)
  | object {members : List (String × Json)} : (∀ m ∈ members, Sound m.2) → Sound (.object members)

/-! ## The compact form -/

theorem spell_code {x : Code} (hlow : x.isLow = false) (hhigh : x.isHigh = false) (rest : List Piece) :
    spell (.code x :: rest) = (spell rest).map (.ofNat x.value :: ·) := by
  rw [spell.eq_def]
  simp only [hlow, hhigh, Bool.false_eq_true, if_false]

theorem exists_piece (c : Char) :
    ∃ p : Piece, p.chars = escapeChar c ∧ ∀ rest, spell (p :: rest) = (spell rest).map (c :: ·) := by
  unfold escapeChar
  split
  next h => subst h; exact ⟨.letter '"' '"' (by decide), rfl, fun _ => rfl⟩
  split
  next h => subst h; exact ⟨.letter '\\' '\\' (by decide), rfl, fun _ => rfl⟩
  split
  next h => subst h; exact ⟨.letter 'n' '\n' (by decide), rfl, fun _ => rfl⟩
  split
  next h => subst h; exact ⟨.letter 'r' '\r' (by decide), rfl, fun _ => rfl⟩
  split
  next h => subst h; exact ⟨.letter 't' '\t' (by decide), rfl, fun _ => rfl⟩
  split
  next h => subst h; exact ⟨.letter 'b' '\x08' (by decide), rfl, fun _ => rfl⟩
  split
  next h => subst h; exact ⟨.letter 'f' '\x0c' (by decide), rfl, fun _ => rfl⟩
  split
  next hcontrol =>
    let digit (n : Nat) : HexDigit := ⟨⟨n % 16, Nat.mod_lt _ (by decide)⟩, false⟩
    let x : Code := ⟨digit 0, digit 0, digit (c.toNat / 16), digit c.toNat⟩
    have hvalue : x.value = c.toNat := by
      simp only [x, digit, Code.value]
      omega
    refine ⟨.code x, rfl, fun rest => ?_⟩
    rw [spell_code (by simp [Code.isLow, hvalue]; omega) (by simp [Code.isHigh, hvalue]; omega), hvalue,
      Char.ofNat_toNat]
  next hquote hbackslash _ _ _ _ _ hcontrol =>
    exact ⟨.plain c ⟨hquote, hbackslash, Nat.not_lt.mp hcontrol⟩, rfl, fun _ => rfl⟩

theorem exists_pieces (cs : List Char) :
    ∃ pieces, pieces.flatMap Piece.chars = cs.flatMap escapeChar ∧ spell pieces = .ok cs := by
  induction cs with
  | nil => exact ⟨[], rfl, rfl⟩
  | cons c cs ih =>
    obtain ⟨p, hp, hspell⟩ := exists_piece c
    obtain ⟨pieces, hpieces, hrest⟩ := ih
    exact ⟨p :: pieces, by rw [List.flatMap_cons, List.flatMap_cons, hp, hpieces], by rw [hspell, hrest]; rfl⟩

theorem exists_quote (s : String) : ∃ pieces, quote pieces = textChars s ∧ textOf pieces = .ok s := by
  obtain ⟨pieces, hpieces, hspell⟩ := exists_pieces s.toList
  refine ⟨pieces, by rw [quote, hpieces]; rfl, ?_⟩
  rw [textOf, hspell]
  exact congrArg Except.ok String.ofList_toList

theorem append_eq_intercalate {α : Type} {write : α → List Char} {others : List α → List Char} (hnil : others [] = [])
    (hcons : ∀ a rest, others (a :: rest) = ',' :: (write a ++ others rest)) (a : α) (rest : List α) :
    write a ++ others rest = [','].intercalate ((a :: rest).map write) := by
  induction rest generalizing a with
  | nil => simp [hnil]
  | cons next rest ih =>
    rw [hcons, ih]
    simp [List.intercalate_cons_cons]

theorem compactItems_eq (item : Json) (rest : List Json) :
    compactChars item ++ compactItems rest = [','].intercalate ((item :: rest).map compactChars) :=
  append_eq_intercalate (by rw [compactItems]) (fun _ _ => by rw [compactItems]) item rest

theorem compactMembers_eq (m : String × Json) (rest : List (String × Json)) :
    textChars m.1 ++ ':' :: compactChars m.2 ++ compactMembers rest =
      [','].intercalate ((m :: rest).map fun m => textChars m.1 ++ ':' :: compactChars m.2) := by
  have hcons (m : String × Json) (rest : List (String × Json)) :
      compactMembers (m :: rest) = ',' :: (textChars m.1 ++ ':' :: compactChars m.2 ++ compactMembers rest) := by
    rw [compactMembers]
  exact append_eq_intercalate (by rw [compactMembers]) hcons m rest

theorem exists_key_behind {gap : List Char} (hgap : AllSpace gap) (s : String) :
    ∃ key : Key, key.chars = gap ++ textChars s ∧ key.name = .ok s := by
  obtain ⟨pieces, hquote, hname⟩ := exists_quote s
  refine ⟨⟨gap, pieces, [], hgap, by simp [AllSpace]⟩, ?_, hname⟩
  simpa [Key.chars] using hquote

theorem exists_key (s : String) : ∃ key : Key, key.chars = textChars s ∧ key.name = .ok s :=
  @exists_key_behind [] (by simp [AllSpace]) s

theorem spelled_number {n : Numeral} (h : n.Sound) : Spelled (.number n) n.text := by
  have hnumber : Spelled (.number n) (numeralChars n 'e') := .number h (.inl rfl)
  rwa [numeralChars_e] at hnumber

theorem spelled_text (s : String) : Spelled (.text (.ok s)) (textChars s) := by
  obtain ⟨pieces, hquote, hname⟩ := exists_quote s
  have htext := Spelled.text pieces
  rwa [hquote, hname] at htext

/-- **The compact form of a value is one of the texts of its tree.** -/
theorem Sound.spelled_compact {j : Json} (h : j.Sound) : Spelled (toDoc j) (compactChars j) := by
  induction h with
  | null => exact .null
  | bool b => cases b <;> exact .bool _
  | number h => exact spelled_number h
  | text s => exact spelled_text s
  | @list items _ ih =>
    cases items with
    | nil => exact .emptyList [] (by simp [AllSpace])
    | cons item rest =>
      have hlist : Spelled (.list (((item :: rest).map fun j => (toDoc j, compactChars j)).map Prod.fst) .closed) _ :=
        .list (by simp) (List.forall_mem_map.mpr ih)
      rw [List.map_map, List.map_map] at hlist
      simp only [Function.comp_def] at hlist
      rw [toDoc, itemDocs_eq_map, compactChars, compactItems_eq]
      exact hlist
  | @object members _ ih =>
    cases members with
    | nil => exact .emptyObject [] (by simp [AllSpace])
    | cons m rest =>
      choose key hchars hname using exists_key
      have hobject : Spelled (.object (((m :: rest).map fun m => (key m.1, toDoc m.2, compactChars m.2)).map
          fun m => (m.1.name, m.2.1)) .closed) _ := .object (by simp) (List.forall_mem_map.mpr ih)
      rw [List.map_map, List.map_map] at hobject
      simp only [Function.comp_def, hchars, hname] at hobject
      rw [toDoc, memberDocs_eq_map, compactChars, compactMembers_eq]
      exact hobject

theorem Sound.spelled {j : Json} (h : j.Sound) : Spelled (toDoc j) j.compact.toList := by
  rw [compact, String.toList_ofList]
  exact h.spelled_compact

theorem Sound.decode_compact {α : Type} {j : Json} (h : j.Sound) (read : Reader α) :
    read.decode j.compact = read 127 (toDoc j) := h.spelled.decode read

end Dataflow.Json
