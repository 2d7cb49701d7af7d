/-
How deep the parts of a regular expression nest. A single character has depth
zero; a group, a repetition and a set are one deeper than what they hold, and
so are several parts in a row, while a single one stands for itself.
-/

namespace Dataflow.Pattern

def depthLimit : Nat := 250

/-- Parts that stand side by side. -/
structure Row where
  parts : Nat := 0
  deepest : Nat := 0

namespace Row

def add (r : Row) (depth : Nat) : Row := ⟨r.parts + 1, max r.deepest depth⟩

def depth (r : Row) : Nat := if r.parts ≤ 1 then r.deepest else r.deepest + 1

end Row

end Dataflow.Pattern
