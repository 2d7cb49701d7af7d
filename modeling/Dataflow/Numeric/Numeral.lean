/-
Decimal numerals: an optional minus, digits, an optional fraction and an
optional power of ten. A numeral is text with its parts told apart, so writing
one down is a matter of putting the parts side by side.
-/

namespace Dataflow.Numeric

inductive ExponentSign
  | absent | plus | minus
  deriving DecidableEq, Repr

structure PowerOfTen where
  sign : ExponentSign
  digits : List Char
  deriving DecidableEq, Repr

/-- A decimal numeral. Without a point the fraction has no digit. -/
structure Numeral where
  negative : Bool
  whole : List Char
  fraction : List Char
  power : Option PowerOfTen
  deriving DecidableEq, Repr

def ExponentSign.text : ExponentSign → List Char
  | .absent => []
  | .plus => ['+']
  | .minus => ['-']

namespace Numeral

def fractionText (fraction : List Char) : List Char :=
  if fraction.isEmpty then [] else '.' :: fraction

def powerText : Option PowerOfTen → List Char
  | none => []
  | some p => 'e' :: (p.sign.text ++ p.digits)

/-- The numeral written down. -/
def text (n : Numeral) : List Char :=
  (if n.negative then ['-'] else []) ++ n.whole ++ fractionText n.fraction ++ powerText n.power

def isWhole (n : Numeral) : Bool := n.fraction.isEmpty && n.power.isNone

def ofInt (n : Int) : Numeral := ⟨n < 0, Nat.toDigits 10 n.natAbs, [], none⟩

end Numeral

end Dataflow.Numeric
