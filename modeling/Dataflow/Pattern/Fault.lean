/-
Regular expressions for the value of a field in a log filter, as far as a
filter asks: whether a text is one, and one that can be searched for. A pattern
stands between braces and so holds none that closes; whatever needs one, such
as a counted repetition, is never complete.

The text is read from left to right, item by item. What is open around the
place of reading is kept in a list, from the innermost group outwards.
-/
import Dataflow.Pattern.CharacterSet
import Dataflow.Text.Alphanumeric

namespace Dataflow

open Text

inductive PatternFault
  | malformed
  /-- a boundary of words, which takes more than one byte to tell -/
  | wordBoundary
  deriving DecidableEq, Repr

def PatternFault.message : PatternFault → String
  | malformed => "error building NFA"
  | wordBoundary =>
    "unsupported regex feature for DFAs: cannot build DFAs for regexes with Unicode word " ++
    "boundaries; switch to ASCII word boundaries, or heuristically enable Unicode word " ++
    "boundaries or use a different regex engine"

namespace Pattern

def isGroupName : List Char → Bool
  | [] => false
  | c :: cs => (c = '_' || isAlphabetic c) &&
      cs.all fun c => isAlphanumeric c || "_.[]".toList.contains c

/-- The alternatives of a group, or of the whole pattern, up to the place of reading. -/
structure Choice where
  branches : Row := {}
  /-- the items of the last one, but for the last item that can be repeated -/
  items : Row := {}
  last : Option Nat := none

namespace Choice

def row (a : Choice) : Row :=
  match a.last with
  | none => a.items
  | some depth => a.items.add depth

def add (a : Choice) (depth : Nat) : Choice := { a with items := a.row, last := some depth }

def addFixed (a : Choice) : Choice := { a with items := a.row.add 0, last := none }

def alternate (a : Choice) : Choice := { branches := a.branches.add a.row.depth }

def depth (a : Choice) : Nat := (a.branches.add a.row.depth).depth

end Choice

structure Progress where
  mode : Mode := {}
  choice : Choice := {}
  /-- around the open groups: what has been read, and the mode that holds behind the group -/
  outer : List (Mode × Choice) := []
  names : List (List Char) := []
  hasBoundary : Bool := false

namespace Progress

def openGroup (p : Progress) (mode : Mode) : Progress :=
  { p with mode, choice := {}, outer := (p.mode, p.choice) :: p.outer }

def closeGroup (p : Progress) : Option Progress :=
  match p.outer with
  | [] => none
  | (mode, around) :: outer =>
    some { p with mode, choice := around.add (p.choice.depth + 1), outer }

def namedGroup (p : Progress) (cs : List Char) : Option (Progress × List Char) :=
  let name := cs.takeWhile (· ≠ '>')
  if name.length < cs.length && isGroupName name && !p.names.contains name then
    some ({ p.openGroup p.mode with names := name :: p.names }, cs.drop (name.length + 1))
  else none

/-- A group with flags, or flags alone, which hold for the rest of the group around them. -/
def flags (p : Progress) (cs : List Char) : Option (Progress × List Char) :=
  let flags := cs.takeWhile fun c => c ≠ ':' && c ≠ ')'
  if !areFlags flags then none
  else match cs.drop flags.length with
    | ':' :: rest => some (p.openGroup (p.mode.apply flags), rest)
    | ')' :: rest =>
      if flags.isEmpty then none
      else some ({ p with mode := p.mode.apply flags, choice := p.choice.addFixed }, rest)
    | _ => none

def group (p : Progress) (cs : List Char) : Option (Progress × List Char) :=
  match p.mode.skip cs with
  | '?' :: '<' :: '=' :: _ | '?' :: '<' :: '!' :: _ => none
  | '?' :: 'P' :: '<' :: cs | '?' :: '<' :: cs => p.namedGroup cs
  | '?' :: cs => p.flags cs
  | cs => some (p.openGroup p.mode, cs)

/-- The repetition of the last item. Another question mark belongs to it. -/
def repetition (p : Progress) (cs : List Char) : Option (Progress × List Char) := do
  let depth ← p.choice.last
  some ({ p with choice := { p.choice with last := some (depth + 1) } },
    if cs.head? = some '?' then cs.drop 1 else cs)

def atom (p : Progress) (cs : List Char) : Option (Progress × List Char) := do
  let (atom, rest) ← Atom.read p.mode cs
  if !atom.fits p.mode then none
  else
    let hasBoundary := match atom with
      | .boundary => p.hasBoundary || p.mode.isUnicode
      | _ => p.hasBoundary
    some ({ p with choice := p.choice.add 0, hasBoundary }, rest)

/-- One item: how far the pattern has been read then, and the rest of the text. -/
def step (p : Progress) (c : Char) (cs : List Char) : Option (Progress × List Char) :=
  match c with
  | '(' => p.group cs
  | ')' => p.closeGroup.map (·, cs)
  | '|' => some ({ p with choice := p.choice.alternate }, cs)
  | '[' => (CharacterSet.read p.mode cs).map fun (depth, rest) =>
      ({ p with choice := p.choice.add depth }, rest)
  | '?' | '*' | '+' => p.repetition cs
  | '{' => none
  | c => p.atom (c :: cs)

/-- Reads on. Each step takes a character at least. -/
def run : Nat → Progress → List Char → Option Progress
  | 0, _, _ => none
  | fuel + 1, p, cs =>
    match p.mode.skip cs with
    | [] => some p
    | c :: cs =>
      match p.step c cs with
      | none => none
      | some (p, rest) => run fuel p rest

end Progress

def fault? (cs : List Char) : Option PatternFault :=
  match Progress.run (cs.length + 1) {} cs with
  | none => some .malformed
  | some p =>
    if !p.outer.isEmpty || p.choice.depth > depthLimit then some .malformed
    else if p.hasBoundary then some .wordBoundary
    else none

example : fault? "Relu|(Co)?py".toList = none ∧ fault? "(Relu".toList = some .malformed ∧
    fault? "\\bRelu".toList = some .wordBoundary ∧ fault? "(?-u)\\bRelu".toList = none := by
  decide +kernel

/-- A comment is read over, and with it whatever could close it. -/
example : fault? "(?x:a)".toList = none ∧ fault? "(?x:a#)".toList = some .malformed ∧
    fault? "(?x)a#)".toList = none := by decide +kernel

end Pattern

end Dataflow
