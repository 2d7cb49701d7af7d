/-
The value of a numeral in a JSON text. A numeral without fraction and power of
ten that fits in 64 bits is an integer; minus zero is not one. Every other
numeral is a double precision number, computed from a 64 bit significand and a
power of ten, and out of range when that leaves the format.

The significand takes the digits from the left as long as they fit in 64 bits.
Whole digits after that only raise the power of ten, and fraction digits after
that are passed over.
-/
import Dataflow.Json.Error

namespace Dataflow.Json

open Numeric

inductive Number
  /-- An integer from zero up, within 64 bits. -/
  | natural (n : Nat)
  /-- The integer `-n`, not zero, within 64 bits. -/
  | negative (n : Nat)
  | real (x : Float)

def Number.found : Number → Found
  | .natural n => .integer n
  | .negative n => .integer (-n)
  | .real x => .real x

/-- The nearest single precision number: straight from an integer, through double precision
otherwise. -/
def Number.single : Number → Float32
  | .natural n => Numeric.single n
  | .negative n => Numeric.single (-n)
  | .real x => narrow x

/-- Takes digits into a number from the left while it stays within `limit`. Also gives the digits
left over. -/
def takeDigits (limit : Nat) : Nat → List Char → Nat × List Char
  | n, [] => (n, [])
  | n, c :: cs =>
    let next := n * 10 + (c.toNat - '0'.toNat)
    if limit < next then (n, c :: cs) else takeDigits limit next cs

/-- Divides by `10 ^ 308` until the power of ten left is one the format holds or the number has
vanished. -/
def scaleDown : Nat → Float → Nat → Float
  | 0, x, _ => x
  | times + 1, x, power =>
    if power ≤ 308 then x / double (Nat.pow 10 power)
    else if x == 0 then x
    else scaleDown times (x / double (Nat.pow 10 308)) (power - 308)

/-- The number `significand * 10 ^ power`, for a significand within 64 bits. Four divisions
take any of them to zero. -/
def scaled (significand : Nat) (power : Int) : Except ReadError Float :=
  let x := double significand
  if power < 0 then .ok (scaleDown 4 x power.natAbs)
  else if power ≤ 308 then
    let y := x * double (Nat.pow 10 power.toNat)
    if y.isInf then .error .numberTooLarge else .ok y
  else if x == 0 then .ok x
  else .error .numberTooLarge

/-- The number of a significand, a power of ten from its digits and one written behind them. -/
def withPower (significand : Nat) (power : Int) : Option PowerOfTen → Except ReadError Float
  | none => scaled significand power
  | some p =>
    let (n, rest) := takeDigits 2147483647 0 p.digits
    let falls := p.sign == .minus
    if rest.isEmpty then scaled significand (if falls then power - n else power + n)
    else if significand != 0 && !falls then .error .numberTooLarge
    else .ok 0

def wordMax : Nat := 18446744073709551615

/-- The size of a numeral as a double precision number. -/
def magnitude (n : Numeral) : Except ReadError Float :=
  let (whole, excess) := takeDigits wordMax 0 n.whole
  let (significand, rest) := takeDigits wordMax whole n.fraction
  withPower significand (excess.length - (n.fraction.length - rest.length)) n.power

def numeralValue (n : Numeral) : Except ReadError Number :=
  let (whole, excess) := takeDigits wordMax 0 n.whole
  if n.isWhole && excess.isEmpty then
    if !n.negative then .ok (.natural whole)
    else if 0 < whole && whole ≤ 9223372036854775808 then .ok (.negative whole)
    else .ok (.real (-double whole))
  else (magnitude n).map fun x => .real (if n.negative then -x else x)

end Dataflow.Json
