/-
Counts for a reader: the decimal digits with a comma before every group of
three, counted from the right.
-/

namespace Dataflow.Text

/-- Puts a comma after every third digit; the digits come least significant first. -/
def groupReversed : List Char → List Char
  | a :: b :: c :: d :: rest => a :: b :: c :: ',' :: groupReversed (d :: rest)
  | digits => digits

def grouped (n : Nat) : String :=
  String.ofList (groupReversed (Nat.toDigits 10 n).reverse).reverse

example : grouped 1234567 = "1,234,567" := by decide

end Dataflow.Text
