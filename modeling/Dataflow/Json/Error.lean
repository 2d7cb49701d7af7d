/-
What can be wrong with a JSON text that is read for a purpose. A fault belongs
to one of three kinds: the text ended too early, it breaks the grammar, or it
is sound JSON of a content that does not fit.
-/
import Dataflow.Numeric.Layout
import Dataflow.Text.Quoted

namespace Dataflow.Json

open Numeric Text

inductive Category
  | ended
  | malformed
  | unfitting
  deriving DecidableEq, Repr

/-- How a value that does not fit is named. -/
inductive Found
  | null
  | bool (b : Bool)
  | integer (n : Int)
  | real (x : Float)
  | text (s : String)
  | sequence
  | mapping

inductive ReadError
  | endOfList
  | endOfObject
  | endOfText
  | endOfValue
  | expectedColon
  | expectedListEnd
  | expectedObjectEnd
  | expectedWord
  | expectedValue
  | badEscape
  | badNumber
  | numberTooLarge
  | controlCharacter
  | keyNotText
  | loneSurrogate
  | halfPair
  | trailingComma
  | trailingText
  | tooDeep
  | wrongType (found : Found) (expected : String)
  | wrongInteger (value : Int) (expected : String)
  | wrongLength (length : Nat) (expected : String)
  | missingField (name : String)
  | repeatedField (name : String)
  | unknownVariant (name : String) (known : List String)
  | noVariant (type : String)
  | refused (reason : String)

/-- The layout of numbers in messages: positional from 1e-5 up to 1e16, with at least one digit
after the point. -/
def messageLayout : Layout := ⟨some (-5, 16), true, .toEven⟩

def quotedName (name : String) : String := "`" ++ name ++ "`"

def Found.describe : Found → String
  | .null => "null"
  | .bool b => "boolean " ++ quotedName (if b then "true" else "false")
  | .integer n => "integer " ++ quotedName (toString n)
  | .real x => "floating point " ++ quotedName (messageLayout.text .binary64 (unpack64 x))
  | .text s => "string " ++ quoted s
  | .sequence => "sequence"
  | .mapping => "map"

namespace ReadError

def category : ReadError → Category
  | endOfList | endOfObject | endOfText | endOfValue => .ended
  | expectedColon | expectedListEnd | expectedObjectEnd | expectedWord | expectedValue
  | badEscape | badNumber | numberTooLarge | controlCharacter | keyNotText | loneSurrogate
  | halfPair | trailingComma | trailingText | tooDeep => .malformed
  | wrongType .. | wrongInteger .. | wrongLength .. | missingField _ | repeatedField _
  | unknownVariant .. | noVariant _ | refused _ => .unfitting

def knownVariants : List String → String
  | [] => "there are no variants"
  | [a] => "expected " ++ quotedName a
  | [a, b] => "expected " ++ quotedName a ++ " or " ++ quotedName b
  | many => "expected one of " ++ ", ".intercalate (many.map quotedName)

def message : ReadError → String
  | endOfList => "EOF while parsing a list"
  | endOfObject => "EOF while parsing an object"
  | endOfText => "EOF while parsing a string"
  | endOfValue => "EOF while parsing a value"
  | expectedColon => "expected `:`"
  | expectedListEnd => "expected `,` or `]`"
  | expectedObjectEnd => "expected `,` or `\x7d`"
  | expectedWord => "expected ident"
  | expectedValue => "expected value"
  | badEscape => "invalid escape"
  | badNumber => "invalid number"
  | numberTooLarge => "number out of range"
  | controlCharacter => "control character (\\u0000-\\u001F) found while parsing a string"
  | keyNotText => "key must be a string"
  | loneSurrogate => "lone leading surrogate in hex escape"
  | halfPair => "unexpected end of hex escape"
  | trailingComma => "trailing comma"
  | trailingText => "trailing characters"
  | tooDeep => "recursion limit exceeded"
  | wrongType found expected => "invalid type: " ++ found.describe ++ ", expected " ++ expected
  | wrongInteger value expected =>
    "invalid value: " ++ (Found.integer value).describe ++ ", expected " ++ expected
  | wrongLength length expected =>
    "invalid length " ++ toString length ++ ", expected " ++ expected
  | missingField name => "missing field " ++ quotedName name
  | repeatedField name => "duplicate field " ++ quotedName name
  | unknownVariant name known =>
    "unknown variant " ++ quotedName name ++ ", " ++ knownVariants known
  | noVariant type => "data did not match any variant of untagged enum " ++ type
  | refused reason => reason

end ReadError

end Dataflow.Json
