/-
The tokens of a JSON text. The text is scanned character by character by a
machine that always knows what it is in the middle of, so a text that ends or
breaks off anywhere has a definite list of tokens.

A token that breaks the grammar is the last one. What is wrong with it depends
on who meets it: a reader that wants the value reports the first fault in it, a
reader that passes over the value checks less and so may report another one.
-/
import Dataflow.Json.Number
import Dataflow.Text.Hex

namespace Dataflow.Json

open Numeric

/-- The faults of a place where no sound value stands, by how it is looked at. -/
structure Fault where
  /-- for a reader that wants the value -/
  asked : ReadError
  /-- for a reader that passes over it -/
  skipped : ReadError
  /-- for a reader that looks at its first character only -/
  glanced : ReadError

def Fault.all (e : ReadError) : Fault := ⟨e, e, e⟩

inductive Word
  | null | true | false
  deriving DecidableEq

inductive Token
  | openList
  | closeList
  | openObject
  | closeObject
  | colon
  | comma
  | word (w : Word)
  | number (n : Numeral)
  /-- A text that ends. Its escapes may still spell no character. -/
  | text (s : Except ReadError String)
  | brokenText (fault : Fault)
  | broken (fault : Fault)
  | stray

/-- Where in a numeral the scanner is, by what was read last. -/
inductive NumeralPart
  | minus | zero | whole | point | fraction | mark | sign | power
  deriving DecidableEq

def NumeralPart.mayEnd : NumeralPart → Bool
  | .zero | .whole | .fraction | .power => true
  | .minus | .point | .mark | .sign => false

/-- A numeral in the making; the digits come last first. -/
structure Digits where
  negative : Bool
  whole : List Char := []
  fraction : List Char := []
  sign : ExponentSign := .absent
  power : List Char := []

def Digits.numeral (d : Digits) (part : NumeralPart) : Numeral where
  negative := d.negative
  whole := d.whole.reverse
  fraction := d.fraction.reverse
  power := if part = .power then some ⟨d.sign, d.power.reverse⟩ else none

/-- A text in the making: the characters read, last first, the first escape that spells no
character, and the first half of a surrogate pair when it was read last. -/
structure Characters where
  read : List Char := []
  fault : Option ReadError := none
  half : Option Nat := none

inductive TextPart
  | plain
  | escape
  /-- in the digits of a code: their value so far, the bytes read, and whether all were digits -/
  | code (value bytes : Nat) (sound : Bool)

inductive Mode
  | between
  /-- before the letter `next` of a word, with the letters missing after it -/
  | word (next : Char) (missing : List Char) (w : Word)
  | numeral (d : Digits) (part : NumeralPart)
  | text (t : Characters) (part : TextPart)
  | stopped

/-- The scanner: its mode, and the tokens so far, last first. -/
structure Scanner where
  mode : Mode := .between
  tokens : List Token := []

def isDigit (c : Char) : Bool := '0' ≤ c && c ≤ '9'

/-- The four characters that may stand between tokens. -/
def isSpace (c : Char) : Bool := c == ' ' || c == '\n' || c == '\t' || c == '\r'

/-- A token that breaks the grammar where its first character is already known. -/
def brokenToken (asked skipped : ReadError) : Token := .broken ⟨asked, skipped, .expectedValue⟩

/-- A character between tokens: the mode it leads to, and the token it is. -/
def startToken (c : Char) : Mode × Option Token :=
  if isSpace c then (.between, none)
  else match c with
    | '[' => (.between, some .openList)
    | ']' => (.between, some .closeList)
    | '{' => (.between, some .openObject)
    | '}' => (.between, some .closeObject)
    | ':' => (.between, some .colon)
    | ',' => (.between, some .comma)
    | 'n' => (.word 'u' ['l', 'l'] .null, none)
    | 't' => (.word 'r' ['u', 'e'] .true, none)
    | 'f' => (.word 'a' ['l', 's', 'e'] .false, none)
    | '"' => (.text {} .plain, none)
    | '-' => (.numeral { negative := true } .minus, none)
    | '0' => (.numeral { negative := false, whole := ['0'] } .zero, none)
    | _ =>
      if isDigit c then (.numeral { negative := false, whole := [c] } .whole, none)
      else (.stopped, some .stray)

/-- What a character does to a numeral it follows. -/
inductive Extension
  | longer (d : Digits) (part : NumeralPart)
  | ends
  | breaks

def isMark (c : Char) : Bool := c == 'e' || c == 'E'

def extendWhole (d : Digits) (c : Char) : Extension :=
  if c == '.' then .longer d .point else if isMark c then .longer d .mark else .ends

def extendNumeral (d : Digits) (part : NumeralPart) (c : Char) : Extension :=
  match part with
  | .minus =>
    if c == '0' then .longer { d with whole := [c] } .zero
    else if isDigit c then .longer { d with whole := [c] } .whole
    else .breaks
  | .zero => if isDigit c then .breaks else extendWhole d c
  | .whole =>
    if isDigit c then .longer { d with whole := c :: d.whole } .whole else extendWhole d c
  | .point => if isDigit c then .longer { d with fraction := [c] } .fraction else .breaks
  | .fraction =>
    if isDigit c then .longer { d with fraction := c :: d.fraction } .fraction
    else if isMark c then .longer d .mark
    else .ends
  | .mark =>
    if c == '+' then .longer { d with sign := .plus } .sign
    else if c == '-' then .longer { d with sign := .minus } .sign
    else if isDigit c then .longer { d with power := [c] } .power
    else .breaks
  | .sign => if isDigit c then .longer { d with power := [c] } .power else .breaks
  | .power => if isDigit c then .longer { d with power := c :: d.power } .power else .ends

/-- The fault of a text, where `e` breaks the grammar: an escape before that point that spells no
character comes first for a reader that wants the text. -/
def Characters.broken (t : Characters) (e : ReadError) : Token :=
  .brokenText ⟨t.fault.getD e, e, t.fault.getD e⟩

def Characters.blame (t : Characters) (e : ReadError) : Characters :=
  { t with fault := t.fault <|> some e, half := none }

/-- The characters with an awaited second half of a pair given up. -/
def Characters.settle (t : Characters) : Characters :=
  if t.half.isSome then t.blame .halfPair else t

def Characters.push (t : Characters) (c : Char) : Characters := { t with read := c :: t.read }

/-- Takes in the code of an escape, a unit of UTF-16. -/
def Characters.pushCode (t : Characters) (n : Nat) : Characters :=
  match t.half with
  | some high =>
    if 0xdc00 ≤ n && n ≤ 0xdfff then
      { t.push (.ofNat (0x10000 + (high - 0xd800) * 0x400 + (n - 0xdc00))) with half := none }
    else t.blame .loneSurrogate
  | none =>
    if 0xdc00 ≤ n && n ≤ 0xdfff then t.blame .loneSurrogate
    else if 0xd800 ≤ n && n ≤ 0xdbff then { t with half := some n }
    else t.push (.ofNat n)

/-- The character of an escape of one letter. -/
def escapeLetter : Char → Option Char
  | '"' => some '"'
  | '\\' => some '\\'
  | '/' => some '/'
  | 'b' => some '\x08'
  | 'f' => some '\x0c'
  | 'n' => some '\n'
  | 'r' => some '\r'
  | 't' => some '\t'
  | _ => none

/-- The text read, when all escapes spell characters. -/
def Characters.result (t : Characters) : Except ReadError String :=
  match t.fault with
  | some e => .error e
  | none => .ok (String.ofList t.read.reverse)

def stepText (t : Characters) (part : TextPart) (c : Char) : Mode × Option Token :=
  match part with
  | .plain =>
    if c == '\\' then (.text t .escape, none)
    else
      let t := t.settle
      if c == '"' then (.between, some (.text t.result))
      else if c.toNat < 0x20 then (.stopped, some (t.broken .controlCharacter))
      else (.text (t.push c) .plain, none)
  | .escape =>
    if c == 'u' then (.text t (.code 0 0 true), none)
    else
      let t := t.settle
      match escapeLetter c with
      | some d => (.text (t.push d) .plain, none)
      | none => (.stopped, some (t.broken .badEscape))
  | .code value bytes sound =>
    -- an escape that does not hold four digits is one of four bytes all the same
    let bytes := bytes + c.utf8Size
    let digit := Text.hexValue c
    let value := value * 16 + digit.getD 0
    let sound := sound && digit.isSome
    if bytes < 4 then (.text t (.code value bytes sound), none)
    else if sound then (.text (t.pushCode value) .plain, none)
    else (.stopped, some (t.broken .badEscape))

/-- One character for the scanner: the next mode, and the tokens it completes, the last first. -/
def stepMode (mode : Mode) (c : Char) : Mode × List Token :=
  match mode with
  | .between => let (m, t) := startToken c; (m, t.toList)
  | .word next missing w =>
    if c != next then (.stopped, [brokenToken .expectedWord .expectedWord])
    else match missing with
      | [] => (.between, [.word w])
      | letter :: missing => (.word letter missing w, [])
  | .numeral d part =>
    match extendNumeral d part c with
    | .longer d part => (.numeral d part, [])
    | .ends => let (m, t) := startToken c; (m, t.toList ++ [.number (d.numeral part)])
    | .breaks => (.stopped, [brokenToken .badNumber .badNumber])
  | .text t part => let (m, t) := stepText t part c; (m, t.toList)
  | .stopped => (.stopped, [])

def Scanner.step (s : Scanner) (c : Char) : Scanner :=
  let (mode, tokens) := stepMode s.mode c
  ⟨mode, tokens ++ s.tokens⟩

/-- The token the text ends in. -/
def lastToken : Mode → List Token
  | .between | .stopped => []
  | .word .. => [brokenToken .endOfValue .endOfValue]
  | .numeral d part =>
    if part.mayEnd then [.number (d.numeral part)] else [brokenToken .endOfValue .badNumber]
  | .text t _ => [t.broken .endOfText]

def scan (text : List Char) : List Token :=
  let s := text.foldl Scanner.step {}
  (lastToken s.mode ++ s.tokens).reverse

end Dataflow.Json
