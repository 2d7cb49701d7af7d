/-
JSON values and their two written forms. The compact form has no blank; the
pretty form puts every item and member on a line of its own, two spaces deeper
than the bracket around it, and leaves an empty bracket pair together.

Members keep the order they are given in. In a text the quote, the backslash
and the characters below U+0020 are escaped, and nothing else.
-/
import Dataflow.Numeric.Layout

namespace Dataflow

open Numeric

inductive Json
  | null
  | bool (b : Bool)
  | number (n : Numeral)
  | text (s : String)
  | list (items : List Json)
  | object (members : List (String × Json))

namespace Json

def ofInt (n : Int) : Json := .number (.ofInt n)

def ofNat (n : Nat) : Json := .ofInt n

/-- The layout of single precision numbers: the shortest digits, positional from 1e-6 up to 1e13,
with at least one digit after the point. -/
def singleLayout : Layout := ⟨some (-6, 13), true, .toEven⟩

/-- A finite single precision number in its shortest digits; the others have no numeral. -/
def ofSingle (x : Float32) : Json :=
  match unpack32 x with
  | .finite negative mantissa exponent =>
    .number (singleLayout.shortest .binary32 negative mantissa exponent)
  | _ => .null

def hexDigit (n : Nat) : Char := Nat.digitChar (n % 16)

/-- How one character stands in a text. -/
def escapeChar (c : Char) : List Char :=
  if c = '"' then ['\\', '"']
  else if c = '\\' then ['\\', '\\']
  else if c = '\n' then ['\\', 'n']
  else if c = '\r' then ['\\', 'r']
  else if c = '\t' then ['\\', 't']
  else if c = '\x08' then ['\\', 'b']
  else if c = '\x0c' then ['\\', 'f']
  else if c.toNat < 0x20 then ['\\', 'u', '0', '0', hexDigit (c.toNat / 16), hexDigit c.toNat]
  else [c]

def textChars (s : String) : List Char :=
  '"' :: (s.toList.flatMap escapeChar ++ ['"'])

mutual

def compactChars : Json → List Char
  | .null => ['n', 'u', 'l', 'l']
  | .bool true => ['t', 'r', 'u', 'e']
  | .bool false => ['f', 'a', 'l', 's', 'e']
  | .number n => n.text
  | .text s => textChars s
  | .list [] => ['[', ']']
  | .list (item :: rest) => '[' :: (compactChars item ++ compactItems rest ++ [']'])
  | .object [] => ['{', '}']
  | .object ((key, value) :: rest) =>
    '{' :: (textChars key ++ ':' :: compactChars value ++ compactMembers rest ++ ['}'])

/-- The items after the first, each behind a comma. -/
def compactItems : List Json → List Char
  | [] => []
  | item :: rest => ',' :: (compactChars item ++ compactItems rest)

def compactMembers : List (String × Json) → List Char
  | [] => []
  | (key, value) :: rest =>
    ',' :: (textChars key ++ ':' :: compactChars value ++ compactMembers rest)

end

def lineBreak (depth : Nat) : List Char := '\n' :: List.replicate (2 * depth) ' '

mutual

/-- The pretty form of a value that stands at a depth. -/
def prettyChars (depth : Nat) : Json → List Char
  | .null => ['n', 'u', 'l', 'l']
  | .bool true => ['t', 'r', 'u', 'e']
  | .bool false => ['f', 'a', 'l', 's', 'e']
  | .number n => n.text
  | .text s => textChars s
  | .list [] => ['[', ']']
  | .list (item :: rest) =>
    '[' :: (lineBreak (depth + 1) ++ prettyChars (depth + 1) item ++ prettyItems depth rest ++
      lineBreak depth ++ [']'])
  | .object [] => ['{', '}']
  | .object ((key, value) :: rest) =>
    '{' :: (lineBreak (depth + 1) ++ textChars key ++ ':' :: ' ' :: prettyChars (depth + 1) value ++
      prettyMembers depth rest ++ lineBreak depth ++ ['}'])

def prettyItems (depth : Nat) : List Json → List Char
  | [] => []
  | item :: rest =>
    ',' :: (lineBreak (depth + 1) ++ prettyChars (depth + 1) item ++ prettyItems depth rest)

def prettyMembers (depth : Nat) : List (String × Json) → List Char
  | [] => []
  | (key, value) :: rest =>
    ',' :: (lineBreak (depth + 1) ++ textChars key ++ ':' :: ' ' :: prettyChars (depth + 1) value ++
      prettyMembers depth rest)

end

def compact (j : Json) : String := String.ofList j.compactChars

def pretty (j : Json) : String := String.ofList (j.prettyChars 0)

end Json

end Dataflow
