/-
Sets of characters as ranges of code points, each by its first and last member.
-/

namespace Dataflow.Text

def within (ranges : List (Nat × Nat)) (c : Char) : Bool :=
  ranges.any fun r => r.1 ≤ c.toNat && c.toNat ≤ r.2

end Dataflow.Text
