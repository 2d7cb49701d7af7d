/-
Records: values of a fixed set of named fields. A record is written as an
object of its fields in any order, or as a list of their values in the order of
the declaration. In an object, members of other names are passed over and no
field may come twice. In a list, fields may be missing from the end as far as
they have a default.
-/
import Dataflow.Json.Reader

namespace Dataflow.Json

structure Field (δ : Type) where
  key : String
  required : Bool
  isSet : δ → Bool
  read : Nat → Doc → δ → Except ReadError δ

/-- A field kept in a slot of the draft. -/
def Field.slot {δ α : Type} (key : String) (required : Bool) (read : Reader α)
    (get : δ → Option α) (set : δ → α → δ) : Field δ where
  key := key
  required := required
  isSet draft := (get draft).isSome
  read room d draft := (read room d).map (set draft)

/-- A record type: its name, its fields in order, the draft without any field, and the value of a
draft, which fails when a field is missing. -/
structure Record (δ α : Type) where
  name : String
  fields : List (Field δ)
  blank : δ
  build : δ → Except ReadError α

def requireField {α : Type} (key : String) : Option α → Except ReadError α
  | some value => .ok value
  | none => .error (.missingField key)

namespace Record

variable {δ α : Type}

def readMembers (fields : List (Field δ)) (room : Nat) :
    List (Except ReadError String × Doc) → δ → Except ReadError δ
  | [], draft => .ok draft
  | (key, value) :: rest, draft => do
    let key ← key
    match fields.find? (·.key == key) with
    | none =>
      value.skip
      readMembers fields room rest draft
    | some field =>
      if field.isSet draft then .error (.repeatedField key)
      else readMembers fields room rest (← field.read room value draft)

/-- The fault of a list that should end after the fields. -/
def endOfFields : List Doc → Ending → Except ReadError Unit
  | [], .closed => .ok ()
  | [], .ended => .error .endOfList
  | [], .trailingComma => .error .trailingComma
  | _, _ => .error .trailingText

/-- Reads items into a draft, one field after the other. `tooShort` is the fault of a list that
ends before a field, by the number of its items. -/
def readItems (room : Nat) (tooShort : Nat → ReadError) :
    List (Field δ) → Nat → List Doc → Ending → δ → Except ReadError δ
  | [], _, items, ending, draft => do
    endOfFields items ending
    return draft
  | field :: fields, n, item :: items, ending, draft => do
    readItems room tooShort fields (n + 1) items ending (← field.read room item draft)
  | field :: fields, n, [], ending, draft => do
    ending.asList
    if field.required then .error (tooShort n)
    else readItems room tooShort fields (n + 1) [] ending draft

def fieldCount (r : Record δ α) : String :=
  "struct " ++ r.name ++ " with " ++ toString r.fields.length ++
    (if r.fields.length = 1 then " element" else " elements")

/-- Reads a record in either of its forms. -/
def reader (r : Record δ α) : Reader α
  | room, .object members ending => inBracket room fun inner => do
    let draft ← readMembers r.fields inner members r.blank
    ending.asObject
    r.build draft
  | room, .list items ending => inBracket room fun inner => do
    let draft ← readItems inner (.wrongLength · r.fieldCount) r.fields 0 items ending r.blank
    r.build draft
  | _, d => .error (d.mismatch ("struct " ++ r.name))

end Record

end Dataflow.Json
