/-
What a JSON text holds, as far as it can be read. A sound text is a tree of
values; one that ends or breaks off leaves, along its last branch, the place
where it does so. Reading such a tree from left to right meets the faults of
the text in the order in which the text shows them.

The tree is put together from the tokens one by one, with the open brackets on
a stack, so values may nest to any depth.
-/
import Dataflow.Json.Token

namespace Dataflow.Json

open Numeric

/-- What follows the items or members read inside a bracket. -/
inductive Ending
  | closed
  /-- The text ends where an item, a member, a comma or the bracket could follow. -/
  | ended
  /-- The text ends after the comma of an object. -/
  | endedAfterComma
  | badSeparator
  | trailingComma
  /-- Something other than a text stands in place of a key. -/
  | badKey
  /-- The last item or member is itself not complete: its fault for a reader that passes over. -/
  | within (skipped : ReadError)

/-- A value as far as it can be read. -/
inductive Doc
  | null
  | bool (b : Bool)
  | number (n : Numeral)
  | text (s : Except ReadError String)
  | list (items : List Doc) (ending : Ending)
  | object (members : List (Except ReadError String × Doc)) (ending : Ending)
  | broken (fault : Fault)

instance : Inhabited Doc := ⟨.null⟩

/-- An open bracket with what was read inside, last first. In an object the key of the member
under way comes apart. -/
inductive Frame
  | list (items : List Doc)
  | object (members : List (Except ReadError String × Doc)) (key : Except ReadError String)

/-- What may come next. -/
inductive Awaited
  | value
  | firstItem
  | nextItem
  /-- a key or the end of the object, which has the frame's members so far -/
  | firstKey
  | nextKey
  | colon
  | separator

/-- The state of putting a tree together. -/
inductive Assembly
  | reading (stack : List Frame) (awaited : Awaited)
  /-- The value of the text is complete; `leftover` says whether tokens came after it. -/
  | complete (root : Doc) (leftover : Bool)
  | stuck (root : Doc)

def Frame.withValue : Frame → Doc → Frame
  | .list items, d => .list (d :: items)
  | .object members key, d => .object ((key, d) :: members) key

/-- The value of a bracket with an ending. -/
def Frame.close (ending : Ending) : Frame → Doc
  | .list items => .list items.reverse ending
  | .object members _ => .object members.reverse ending

def putValue (d : Doc) : List Frame → Assembly
  | [] => .complete d false
  | frame :: rest => .reading (frame.withValue d :: rest) .separator

/-- The tree when its last value cannot be completed: every bracket around it stays open. -/
def foldStack (skipped : ReadError) (d : Doc) : List Frame → Doc
  | [] => d
  | frame :: rest => foldStack skipped ((frame.withValue d).close (.within skipped)) rest

/-- The tree when no value stands where one is due. -/
def brokenAt (fault : Fault) (stack : List Frame) : Doc :=
  foldStack fault.skipped (.broken fault) stack

/-- The fault of an ending for a reader that passes over the list or object. -/
def Ending.skipped (isObject : Bool) : Ending → ReadError
  | .closed => .endOfValue
  | .ended => if isObject then .endOfObject else .endOfList
  | .endedAfterComma => .endOfObject
  | .badSeparator => if isObject then .expectedObjectEnd else .expectedListEnd
  | .trailingComma => if isObject then .keyNotText else .expectedValue
  | .badKey => .keyNotText
  | .within skipped => skipped

def Frame.isObject : Frame → Bool
  | .list _ => false
  | .object .. => true

/-- The tree when the innermost bracket goes on in a way it must not. -/
def endedIn (ending : Ending) : List Frame → Doc
  | [] => .broken (.all .endOfValue)
  | frame :: rest => foldStack (ending.skipped frame.isObject) (frame.close ending) rest

/-- Closes the innermost bracket. -/
def closeFrame : List Frame → Assembly
  | [] => .stuck (.broken (.all .endOfValue))
  | frame :: rest => putValue (frame.close .closed) rest

def stepValue (stack : List Frame) : Token → Assembly
  | .openList => .reading (.list [] :: stack) .firstItem
  | .openObject => .reading (.object [] (.ok "") :: stack) .firstKey
  | .word .null => putValue .null stack
  | .word .true => putValue (.bool true) stack
  | .word .false => putValue (.bool false) stack
  | .number n => putValue (.number n) stack
  | .text s => putValue (.text s) stack
  | .brokenText fault | .broken fault => .stuck (brokenAt fault stack)
  | _ => .stuck (brokenAt (.all .expectedValue) stack)

def stepKey (stack : List Frame) (t : Token) : Assembly :=
  match stack, t with
  | .object members _ :: rest, .text s => .reading (.object members s :: rest) .colon
  | .object members _ :: rest, .brokenText fault =>
    .stuck (brokenAt fault (.object members (.error fault.asked) :: rest))
  | stack, _ => .stuck (endedIn .badKey stack)

def stepSeparator (stack : List Frame) (t : Token) : Assembly :=
  match stack, t with
  | .list _ :: _, .comma => .reading stack .nextItem
  | .object .. :: _, .comma => .reading stack .nextKey
  | .list _ :: _, .closeList => closeFrame stack
  | .object .. :: _, .closeObject => closeFrame stack
  | _, _ => .stuck (endedIn .badSeparator stack)

def Assembly.step : Assembly → Token → Assembly
  | .stuck root, _ => .stuck root
  | .complete root _, _ => .complete root true
  | .reading stack awaited, t =>
    match awaited, t with
    | .value, t => stepValue stack t
    | .firstItem, .closeList => closeFrame stack
    | .firstItem, t => stepValue stack t
    | .nextItem, .closeList => .stuck (endedIn .trailingComma stack)
    | .nextItem, t => stepValue stack t
    | .firstKey, .closeObject => closeFrame stack
    | .firstKey, t => stepKey stack t
    | .nextKey, .closeObject => .stuck (endedIn .trailingComma stack)
    | .nextKey, t => stepKey stack t
    | .colon, .colon => .reading stack .value
    | .colon, _ => .stuck (brokenAt (.all .expectedColon) stack)
    | .separator, t => stepSeparator stack t

/-- The tree of a text that ends where something is awaited. -/
def Awaited.atEnd (stack : List Frame) : Awaited → Doc
  | .value | .nextItem => brokenAt (.all .endOfValue) stack
  | .firstItem | .firstKey | .separator => endedIn .ended stack
  | .nextKey => endedIn .endedAfterComma stack
  | .colon => brokenAt (.all .endOfObject) stack

/-- A text as far as it can be read: its value, and whether something other than white space
follows it. -/
structure Reading where
  root : Doc
  leftover : Bool

def Assembly.result : Assembly → Reading
  | .complete root leftover => ⟨root, leftover⟩
  | .stuck root => ⟨root, false⟩
  | .reading stack awaited => ⟨awaited.atEnd stack, false⟩

def assemble (tokens : List Token) : Reading :=
  (tokens.foldl Assembly.step (.reading [] .value)).result

def Reading.ofText (text : String) : Reading := assemble (scan text.toList)

end Dataflow.Json
