/-
The smallest items of a regular expression, and which of them can be searched
for. Where characters are searched for, the kinds of all characters and their
other case would have to be known, and are not. Where single bytes are searched
for, what is found must not end inside a character, so nothing may reach beyond
ASCII that could be part of one.
-/
import Dataflow.Pattern.Mode
import Dataflow.Text.Hex

namespace Dataflow.Pattern

open Text

inductive Atom
  /-- a character; whether it is told by a code of two digits, which is that of a byte -/
  | char (c : Char) (isByte : Bool)
  | any
  /-- digits, blanks or characters of words, or all but them -/
  | kind (isNegated : Bool)
  | place
  /-- a place between a character of a word and another one -/
  | boundary

namespace Atom

def fits (m : Mode) : Atom → Bool
  | char c isByte => if m.isUnicode then !m.ignoresCase else !isByte || c.toNat < 128
  | any => m.isUnicode
  | kind isNegated => !m.isUnicode && !isNegated
  | place | boundary => true

def isMember (m : Mode) : Atom → Bool
  | char c _ => if m.isUnicode then !m.ignoresCase else c.toNat < 128
  | kind isNegated => !m.isUnicode && !isNegated
  | _ => false

def readCode (m : Mode) : (count code : Nat) → List Char → Option (Nat × List Char)
  | 0, code, cs => some (code, cs)
  | count + 1, code, cs =>
    match m.skip cs with
    | [] => none
    | c :: cs => do readCode m count (code * 16 + (← hexValue c)) cs

def ofCode (m : Mode) (count : Nat) (cs : List Char) : Option (Atom × List Char) := do
  let (code, rest) ← readCode m count 0 cs
  if code.isValidChar then some (.char (.ofNat code) (count == 2), rest) else none

/-- What stands behind a backslash. A letter or digit without a meaning of its own cannot be
escaped, all other characters of ASCII can. -/
def ofEscape (m : Mode) : List Char → Option (Atom × List Char)
  | [] => none
  | c :: cs =>
    match c with
    | 'x' => ofCode m 2 cs
    | 'u' => ofCode m 4 cs
    | 'U' => ofCode m 8 cs
    | 'd' | 's' | 'w' => some (.kind false, cs)
    | 'D' | 'S' | 'W' => some (.kind true, cs)
    | 'a' => some (.char '\x07' false, cs)
    | 'f' => some (.char '\x0c' false, cs)
    | 't' => some (.char '\t' false, cs)
    | 'n' => some (.char '\n' false, cs)
    | 'r' => some (.char '\r' false, cs)
    | 'v' => some (.char '\x0b' false, cs)
    | 'A' | 'z' => some (.place, cs)
    | 'b' | 'B' | '<' | '>' => some (.boundary, cs)
    | c => if c.toNat < 128 && !c.isAlphanum then some (.char c false, cs) else none

def read (m : Mode) : List Char → Option (Atom × List Char)
  | [] => none
  | '\\' :: cs => ofEscape m cs
  | '.' :: cs => some (.any, cs)
  | '^' :: cs | '$' :: cs => some (.place, cs)
  | c :: cs => some (.char c false, cs)

def readMember (m : Mode) : List Char → Option (Atom × List Char)
  | [] => none
  | '\\' :: cs => ofEscape m cs
  | c :: cs => some (.char c false, cs)

end Atom

end Dataflow.Pattern
