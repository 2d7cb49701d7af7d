/-
Binary floating point formats, exactly. A finite number is a sign, a whole
mantissa and a power of two; a quotient of two naturals is rounded to the
nearest number of a format, and a tie goes to the even mantissa.

Conversions between the two formats, and from integers, go through this
rounding, so they are plain functions on bit patterns.
-/

namespace Dataflow.Numeric

/-- The nearest natural to `num / den`; of two equally near ones the even one. -/
def roundDiv (num den : Nat) : Nat :=
  let q := num / den
  let twice := 2 * (num % den)
  if twice < den then q else if den < twice then q + 1 else q + q % 2

/-- A binary interchange format, by the width of its two fields after the sign. -/
structure BinaryFormat where
  fractionBits : Nat
  exponentBits : Nat

/-- What a bit pattern stands for; a finite number is `± mantissa * Nat.pow 2 exponent`. -/
inductive Unpacked
  | nan
  | infinite (negative : Bool)
  | finite (negative : Bool) (mantissa : Nat) (exponent : Int)
  deriving DecidableEq, Repr

namespace BinaryFormat

def binary32 : BinaryFormat := ⟨23, 8⟩

def binary64 : BinaryFormat := ⟨52, 11⟩

/-- The exponent of the smallest positive number. -/
def leastExponent (f : BinaryFormat) : Int :=
  2 - (Nat.pow 2 (f.exponentBits - 1) : Int) - f.fractionBits

def infinityBits (f : BinaryFormat) : Nat :=
  (Nat.pow 2 f.exponentBits - 1) * Nat.pow 2 f.fractionBits

def signBit (f : BinaryFormat) : Nat := Nat.pow 2 (f.exponentBits + f.fractionBits)

def unpack (f : BinaryFormat) (bits : Nat) : Unpacked :=
  let negative := bits / f.signBit % 2 == 1
  let field := bits / Nat.pow 2 f.fractionBits % Nat.pow 2 f.exponentBits
  let fraction := bits % Nat.pow 2 f.fractionBits
  if field = Nat.pow 2 f.exponentBits - 1 then
    if fraction = 0 then .infinite negative else .nan
  else if field = 0 then .finite negative fraction f.leastExponent
  else .finite negative (fraction + Nat.pow 2 f.fractionBits) (f.leastExponent + field - 1)

/-- The exponent a positive quotient has in a format: the least one allowed, or the one that
gives the mantissa all its bits. -/
def exponentOf (f : BinaryFormat) (num den : Nat) : Int :=
  let guess : Int := (Nat.log2 num : Int) - Nat.log2 den
  let enough := num * Nat.pow 2 (-guess).toNat ≥ den * Nat.pow 2 guess.toNat
  let top := if enough then guess else guess - 1
  max (top - f.fractionBits) f.leastExponent

/-- The pattern, without sign, of the number nearest to a quotient. -/
def roundQuotient (f : BinaryFormat) (num den : Nat) : Nat :=
  if num = 0 then 0
  else
    let q := f.exponentOf num den
    let mantissa := roundDiv (num * Nat.pow 2 (-q).toNat) (den * Nat.pow 2 q.toNat)
    min ((q - f.leastExponent).toNat * Nat.pow 2 f.fractionBits + mantissa) f.infinityBits

/-- The pattern of the number of a format nearest to an unpacked one. -/
def pack (f : BinaryFormat) : Unpacked → Nat
  | .nan => f.infinityBits + Nat.pow 2 (f.fractionBits - 1)
  | .infinite negative => (if negative then f.signBit else 0) + f.infinityBits
  | .finite negative mantissa exponent =>
    (if negative then f.signBit else 0) +
      f.roundQuotient (mantissa * Nat.pow 2 exponent.toNat) (Nat.pow 2 (-exponent).toNat)

end BinaryFormat

def unpack32 (x : Float32) : Unpacked := BinaryFormat.binary32.unpack x.toBits.toNat

def unpack64 (x : Float) : Unpacked := BinaryFormat.binary64.unpack x.toBits.toNat

def pack32 (x : Unpacked) : Float32 := .ofBits (.ofNat (BinaryFormat.binary32.pack x))

def pack64 (x : Unpacked) : Float := .ofBits (.ofNat (BinaryFormat.binary64.pack x))

/-- The single precision number nearest to a double precision one. -/
def narrow (x : Float) : Float32 := pack32 (unpack64 x)

/-- A single precision number, which double precision holds exactly. -/
def widen (x : Float32) : Float := pack64 (unpack32 x)

def single (n : Int) : Float32 := pack32 (.finite (n < 0) n.natAbs 0)

def double (n : Int) : Float := pack64 (.finite (n < 0) n.natAbs 0)

end Dataflow.Numeric
