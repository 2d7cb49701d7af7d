/-
How a floating point number is laid out in text. A layout record holds the
decisions of one output: where positional digits end and a power of ten
begins, whether a whole number keeps a fraction digit, and which of two equally
near shortest texts it takes. Fixed places round the exact value, a tie to the
even neighbour.
-/
import Dataflow.Numeric.Numeral
import Dataflow.Numeric.Shortest

namespace Dataflow.Numeric

/-- The decisions of a layout. `positional` is the range of the power of ten of the leading digit,
its upper end excluded, that is written without a power of ten; `none` is no limit. -/
structure Layout where
  positional : Option (Int × Int)
  keepsFraction : Bool
  tie : Tie

/-- Digits with `places` of them after the point, filled up with zeros. -/
def splitPlaces (digits : List Char) (places : Nat) : List Char × List Char :=
  let padded := List.replicate (places + 1 - digits.length) '0' ++ digits
  padded.splitAt (padded.length - places)

/-- The numeral of a decimal number in positional digits. -/
def Layout.positionalNumeral (l : Layout) (negative : Bool) (d : Decimal) : Numeral :=
  let digits := Nat.toDigits 10 (d.digits * Nat.pow 10 d.exponent.toNat)
  let (whole, fraction) := splitPlaces digits (-d.exponent).toNat
  ⟨negative, whole, if fraction.isEmpty && l.keepsFraction then ['0'] else fraction, none⟩

/-- The numeral of a decimal number with one digit before the point and a power of ten, whose sign
is always written. -/
def scientificNumeral (negative : Bool) (d : Decimal) : Numeral :=
  let digits := Nat.toDigits 10 d.digits
  let power := d.exponent + digits.length - 1
  ⟨negative, digits.take 1, digits.drop 1,
    some ⟨if power < 0 then .minus else .plus, Nat.toDigits 10 power.natAbs⟩⟩

/-- The numeral of a decimal number. -/
def Layout.numeral (l : Layout) (negative : Bool) (d : Decimal) : Numeral :=
  let power := d.exponent + (Nat.toDigits 10 d.digits).length - 1
  let isPositional := d.digits == 0 ||
    match l.positional with
    | none => true
    | some (least, limit) => least ≤ power && power < limit
  if isPositional then l.positionalNumeral negative d else scientificNumeral negative d

def Layout.shortest (l : Layout) (f : BinaryFormat) (negative : Bool) (mantissa : Nat)
    (exponent : Int) : Numeral :=
  l.numeral negative (f.shortest l.tie mantissa exponent)

/-- Positional digits throughout and no fraction for a whole number; a tie goes away from zero. -/
def Layout.plain : Layout := ⟨none, false, .away⟩

def specialText : Unpacked → String
  | .nan => "NaN"
  | .infinite true => "-inf"
  | .infinite false => "inf"
  | .finite .. => ""

def Layout.text (l : Layout) (f : BinaryFormat) : Unpacked → String
  | .finite negative mantissa exponent =>
    String.ofList (l.shortest f negative mantissa exponent).text
  | special => specialText special

def plain32 (x : Float32) : String := Layout.plain.text .binary32 (unpack32 x)

def fixed (places : Nat) (x : Float) : String :=
  match unpack64 x with
  | .finite negative mantissa exponent =>
    let scaled := roundDiv (mantissa * Nat.pow 2 exponent.toNat * Nat.pow 10 places)
      (Nat.pow 2 (-exponent).toNat)
    let (whole, fraction) := splitPlaces (Nat.toDigits 10 scaled) places
    String.ofList (Numeral.mk negative whole fraction none).text
  | special => specialText special

def padLeft (width : Nat) (s : String) : String :=
  String.ofList (List.replicate (width - s.length) ' ') ++ s

end Dataflow.Numeric
