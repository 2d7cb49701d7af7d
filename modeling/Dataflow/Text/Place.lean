/-
Messages without places. Where a message names a place in a text, as
` at line 3 column 4`, the mention is left out.
-/

namespace Dataflow.Text

def behindWord : List Char → List Char → Option (List Char)
  | [], cs => some cs
  | _ :: _, [] => none
  | w :: ws, c :: cs => if w = c then behindWord ws cs else none

def behindNumber (cs : List Char) : Option (List Char) :=
  if cs.head?.any Char.isDigit then some (cs.dropWhile Char.isDigit) else none

def behindPlace (cs : List Char) : Option (List Char) := do
  let cs ← behindNumber (← behindWord " at line ".toList cs)
  behindNumber (← behindWord " column ".toList cs)

/-- How many characters the mention of a place takes, none if there is none. -/
def placeLength (cs : List Char) : Nat :=
  match behindPlace cs with
  | some rest => cs.length - rest.length
  | none => 0

/-- Leaves out all mentions of places behind the first characters, which are stepped over. -/
def leaveOutPlaces : Nat → List Char → List Char
  | _, [] => []
  | n + 1, _ :: cs => leaveOutPlaces n cs
  | 0, c :: cs =>
    match placeLength (c :: cs) with
    | 0 => c :: leaveOutPlaces 0 cs
    | n + 1 => leaveOutPlaces n cs

/-- A message without the places that it names. -/
def withoutPlaces (s : String) : String := String.ofList (leaveOutPlaces 0 s.toList)

end Dataflow.Text
