/-
Sets of characters between brackets: members, ranges of them, sets with a name
and sets in brackets again, side by side or with an operator between them. All
that is kept of a set is how deep it nests.
-/
import Dataflow.Pattern.Atom
import Dataflow.Pattern.Nesting

namespace Dataflow.Pattern

open Text

/-- A set whose closing bracket is yet to come. -/
structure OpenSet where
  /-- whether nothing but dashes stands in it -/
  isFresh : Bool := true
  /-- the depth of what stands before the last operator -/
  operand : Option Nat := none
  members : Row := {}

namespace OpenSet

def add (s : OpenSet) (depth : Nat) : OpenSet :=
  { s with isFresh := false, members := s.members.add depth }

/-- An operator takes all that stands before it as its left side. -/
def depth (s : OpenSet) : Nat :=
  match s.operand with
  | none => s.members.depth
  | some operand => max operand s.members.depth + 1

def operate (s : OpenSet) : OpenSet := { isFresh := false, operand := some s.depth }

/-- Whether a character is a member where it stands, although it has a meaning elsewhere: a dash
to which only dashes come before, and a closing bracket to which nothing does. -/
def takes (s : OpenSet) (c : Char) : Bool :=
  s.isFresh && (c = '-' || c = ']' && s.members.parts = 0)

end OpenSet

namespace CharacterSet

def names : List String :=
  ["alnum", "alpha", "ascii", "blank", "cntrl", "digit", "graph", "lower", "print", "punct",
    "space", "upper", "word", "xdigit"]

/-- A set by its name, as it stands behind its bracket: whether it is negated, and the rest. -/
def readNamed : List Char → Option (Bool × List Char)
  | ':' :: cs =>
    let (isNegated, cs) := match cs with
      | '^' :: cs => (true, cs)
      | cs => (false, cs)
    let name := cs.takeWhile (· ≠ ':')
    match cs.drop name.length with
    | ':' :: ']' :: rest =>
      if names.contains (String.ofList name) then some (isNegated, rest) else none
    | _ => none
  | _ => none

def fitsNamed (m : Mode) (isNegated : Bool) : Bool :=
  if m.isUnicode then !m.ignoresCase else !isNegated

/-- What stands behind an opening bracket and a negation, if the set can be searched for. -/
def readOpening (m : Mode) (cs : List Char) : Option (List Char) :=
  match m.skip cs with
  | '^' :: cs => if m.isUnicode then some cs else none
  | cs => some cs

/-- The character behind a dash. The sign of one comment counts as a blank here, but what stands
in the comment does not. -/
def behindDash (m : Mode) (cs : List Char) : Option Char :=
  if m.ignoresBlanks then
    match cs.dropWhile isBlank with
    | '#' :: cs => (cs.dropWhile isBlank).head?
    | cs => cs.head?
  else cs.head?

/-- A member or a range of them. -/
def readRange (m : Mode) (cs : List Char) : Option (List Char) := do
  let (low, rest) ← Atom.readMember m cs
  let alone := if low.isMember m then some (m.skip rest) else none
  match m.skip rest with
  | '-' :: behind =>
    if behindDash m behind = some ']' || behindDash m behind = some '-' then alone
    else
      let (high, rest) ← Atom.readMember m (m.skip behind)
      match low, high with
      | .char first _, .char last _ =>
        if low.isMember m && high.isMember m && first ≤ last then some rest else none
      | _, _ => none
  | _ => alone

/-- Reads on inside a set and the sets around it, and gives the depth of the outermost. Each step
takes a character at least. -/
def readOn (m : Mode) : Nat → OpenSet → List OpenSet → List Char → Option (Nat × List Char)
  | 0, _, _, _ => none
  | fuel + 1, s, outer, cs =>
    match m.skip cs with
    | [] => none
    | c :: cs =>
      if s.takes c then
        if (Atom.char c false).isMember m then
          readOn m fuel { s.add 0 with isFresh := c = '-' } outer cs
        else none
      else if "&-~".toList.contains c && cs.head? = some c then
        readOn m fuel s.operate outer (cs.drop 1)
      else
        match c with
        | ']' =>
          match outer with
          | [] => some (s.depth + 1, cs)
          | around :: outer => readOn m fuel (around.add (s.depth + 1)) outer cs
        | '[' =>
          match readNamed cs with
          | some (isNegated, rest) =>
            if fitsNamed m isNegated then readOn m fuel (s.add 0) outer rest else none
          | none => do readOn m fuel {} (s :: outer) (← readOpening m cs)
        | c => do readOn m fuel (s.add 0) outer (← readRange m (c :: cs))

def read (m : Mode) (cs : List Char) : Option (Nat × List Char) := do
  readOn m (cs.length + 1) {} [] (← readOpening m cs)

end CharacterSet

end Dataflow.Pattern
