/-
Whole numbers written in decimal digits, with a sign in front if one likes. A
fault is that of the first character at which the number cannot go on; where a
character is no digit, it does not matter that the number is too large.
-/

namespace Dataflow.Numeric

inductive CountFault
  | empty
  | badDigit
  | tooLarge
  deriving DecidableEq, Repr

def CountFault.message : CountFault → String
  | empty => "cannot parse integer from empty string"
  | badDigit => "invalid digit found in string"
  | tooLarge => "number too large to fit in target type"

/-- The numbers of 64 bits are those below. -/
def wordLimit : Nat := 18446744073709551616

def digit? (c : Char) : Option Nat :=
  if '0' ≤ c ∧ c ≤ '9' then some (c.toNat - '0'.toNat) else none

/-- Reads digits behind those that make up `value`, as long as the number stays below `limit`. -/
def readDigits (limit : Nat) : Nat → List Char → Except CountFault Nat
  | value, [] => .ok value
  | value, c :: rest =>
    match digit? c with
    | none => .error .badDigit
    | some d =>
      let value := 10 * value + d
      if value < limit then readDigits limit value rest else .error .tooLarge

def readUnsigned (limit : Nat) : List Char → Except CountFault Nat
  | [] => .error .badDigit
  | digits => readDigits limit 0 digits

/-- A number below a limit, which may have a plus in front. -/
def readCount (limit : Nat) : List Char → Except CountFault Nat
  | [] => .error .empty
  | '+' :: digits => readUnsigned limit digits
  | digits => readUnsigned limit digits

/-- A number from `-limit` on and below `limit`, which may have a sign in front. -/
def readInteger (limit : Nat) : List Char → Except CountFault Int
  | '-' :: digits => (readUnsigned (limit + 1) digits).map fun n => -(n : Int)
  | cs => (readCount limit cs).map fun n => (n : Int)

end Dataflow.Numeric
