/-
The texts that JSON has for a tree (`Spelled`). Blanks may stand around every
value and every key. A text has its characters as they are, or behind a
backslash, by a letter or by one or two codes of UTF-16. Codes that are no
character break no rule of the grammar, so such a text stands for the fault that
they are (`spell`). The mark of a power of ten has either case.
-/
import Dataflow.Json.Doc
import Dataflow.Proofs.Json.Numeral

namespace Dataflow.Json

open Numeric

def AllSpace (cs : List Char) : Prop := ∀ c ∈ cs, c = ' ' ∨ c = '\n' ∨ c = '\t' ∨ c = '\r'

/-- A numeral with the given mark in front of its power of ten. -/
def numeralChars (n : Numeral) (mark : Char) : List Char :=
  (if n.negative then ['-'] else []) ++ n.whole ++ Numeral.fractionText n.fraction ++
    n.power.elim [] fun p => mark :: (p.sign.text ++ p.digits)

theorem numeralChars_e (n : Numeral) : numeralChars n 'e' = n.text := by
  unfold numeralChars Numeral.text
  cases n.power <;> rfl

/-! ## Texts -/

structure HexDigit where
  value : Fin 16
  upper : Bool

def HexDigit.char (x : HexDigit) : Char :=
  if x.upper then (Nat.digitChar x.value).toUpper else Nat.digitChar x.value

/-- A unit of UTF-16 by its four digits. -/
structure Code where
  first : HexDigit
  second : HexDigit
  third : HexDigit
  fourth : HexDigit

namespace Code

def chars (x : Code) : List Char := [x.first.char, x.second.char, x.third.char, x.fourth.char]

def value (x : Code) : Nat :=
  ((x.first.value.val * 16 + x.second.value.val) * 16 + x.third.value.val) * 16 + x.fourth.value.val

/-- Whether it can only be the first unit of two. -/
def isHigh (x : Code) : Bool := 0xd800 ≤ x.value && x.value ≤ 0xdbff

def isLow (x : Code) : Bool := 0xdc00 ≤ x.value && x.value ≤ 0xdfff

/-- The code point of two units. -/
def pair (high low : Code) : Nat := 0x10000 + (high.value - 0xd800) * 0x400 + (low.value - 0xdc00)

end Code

/-- The letters behind a backslash, and what they stand for. -/
def escapes : List (Char × Char) :=
  [('"', '"'), ('\\', '\\'), ('/', '/'), ('b', '\x08'), ('f', '\x0c'), ('n', '\n'), ('r', '\r'), ('t', '\t')]

/-- What may stand between the quotes of a text. -/
inductive Piece
  | plain (c : Char) (h : c ≠ '"' ∧ c ≠ '\\' ∧ 0x20 ≤ c.toNat)
  | letter (c meant : Char) (h : (c, meant) ∈ escapes)
  | code (x : Code)

def Piece.chars : Piece → List Char
  | plain c _ => [c]
  | letter c _ _ => ['\\', c]
  | code x => '\\' :: 'u' :: x.chars

/-- The characters that some pieces spell, or the first fault in them. -/
def spell : List Piece → Except ReadError (List Char)
  | [] => .ok []
  | .plain c _ :: rest => (spell rest).map (c :: ·)
  | .letter _ c _ :: rest => (spell rest).map (c :: ·)
  | .code x :: rest =>
    if x.isLow then .error .loneSurrogate
    else if x.isHigh then
      match rest with
      | .code y :: rest => if y.isLow then (spell rest).map (.ofNat (x.pair y) :: ·) else .error .loneSurrogate
      | _ => .error .halfPair
    else (spell rest).map (.ofNat x.value :: ·)

def quote (pieces : List Piece) : List Char := '"' :: (pieces.flatMap Piece.chars ++ ['"'])

def textOf (pieces : List Piece) : Except ReadError String := (spell pieces).map String.ofList

/-! ## Values -/

/-- A key, with blanks around it. -/
structure Key where
  before : List Char
  pieces : List Piece
  after : List Char
  blank : AllSpace before ∧ AllSpace after

namespace Key

def chars (k : Key) : List Char := k.before ++ quote k.pieces ++ k.after

def name (k : Key) : Except ReadError String := textOf k.pieces

end Key

/-- The texts of a tree, whatever blanks stand in it and around it. -/
inductive Spelled : Doc → List Char → Prop
  | null : Spelled .null ['n', 'u', 'l', 'l']
  | bool (b : Bool) : Spelled (.bool b) (if b then ['t', 'r', 'u', 'e'] else ['f', 'a', 'l', 's', 'e'])
  | number {n : Numeral} {mark : Char} (h : n.Sound) (hmark : mark = 'e' ∨ mark = 'E') :
    Spelled (.number n) (numeralChars n mark)
  | text (pieces : List Piece) : Spelled (.text (textOf pieces)) (quote pieces)
  | emptyList (gap : List Char) (h : AllSpace gap) : Spelled (.list [] .closed) ('[' :: (gap ++ [']']))
  | list {items : List (Doc × List Char)} (hsome : items ≠ []) (h : ∀ i ∈ items, Spelled i.1 i.2) :
    Spelled (.list (items.map Prod.fst) .closed) ('[' :: ([','].intercalate (items.map Prod.snd) ++ [']']))
  | emptyObject (gap : List Char) (h : AllSpace gap) : Spelled (.object [] .closed) ('{' :: (gap ++ ['}']))
  | object {members : List (Key × Doc × List Char)} (hsome : members ≠ []) (h : ∀ m ∈ members, Spelled m.2.1 m.2.2) :
    Spelled (.object (members.map fun m => (m.1.name, m.2.1)) .closed)
      ('{' :: ([','].intercalate (members.map fun m => m.1.chars ++ ':' :: m.2.2) ++ ['}']))
  | padded {before after : List Char} {d : Doc} {cs : List Char} (hbefore : AllSpace before) (hafter : AllSpace after)
    (h : Spelled d cs) : Spelled d (before ++ cs ++ after)

end Dataflow.Json
