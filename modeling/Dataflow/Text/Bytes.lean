/-
Places in a text counted in bytes of its UTF-8 form. A part of a text starts
and ends between characters; a place inside a character is a fault.
-/
import Dataflow.Text.Quoted

namespace Dataflow.Text

def bytes : List Char → Nat
  | [] => 0
  | c :: cs => c.utf8Size + bytes cs

def fromByte : Nat → List Char → List Char
  | _, [] => []
  | 0, cs => cs
  | n + 1, c :: cs => fromByte (n + 1 - c.utf8Size) cs

def upToByte : Nat → List Char → List Char
  | _, [] => []
  | 0, _ => []
  | n + 1, c :: cs => c :: upToByte (n + 1 - c.utf8Size) cs

/-- What starts between two bytes, the second excluded. -/
def slice (start stop : Nat) (cs : List Char) : List Char :=
  upToByte (stop - start) (fromByte start cs)

/-- A place inside a character, where a part of a text was to start or to end. -/
structure SplitPlace where
  isStart : Bool
  place : Nat
  char : Char
  first : Nat
  deriving DecidableEq

def SplitPlace.message (p : SplitPlace) : String :=
  let side := if p.isStart then "start" else "end"
  let shown := String.ofList (quoteChar p.char)
  s!"{side} byte index {p.place} is not a char boundary; it is inside '{shown}' " ++
    s!"(bytes {p.first}..{p.first + p.char.utf8Size} of string)"

/-- The character around a place, if the place is inside one, and the byte at which it starts. The
text itself starts at a given byte. -/
def charAround? (place : Nat) : (start : Nat) → List Char → Option (Char × Nat)
  | _, [] => none
  | start, c :: cs =>
    if start < place ∧ place < start + c.utf8Size then some (c, start)
    else charAround? place (start + c.utf8Size) cs

/-- What stands between two places. Of two places inside characters the first is the fault. -/
def slice? (start stop : Nat) (cs : List Char) : Except SplitPlace (List Char) :=
  match charAround? start 0 cs, charAround? stop 0 cs with
  | some (c, first), _ => .error ⟨true, start, c, first⟩
  | none, some (c, first) => .error ⟨false, stop, c, first⟩
  | none, none => .ok (slice start stop cs)

theorem upToByte_bytes : ∀ before behind : List Char,
    upToByte (bytes before) (before ++ behind) = before
  | [], [] => rfl
  | [], _ :: _ => rfl
  | c :: cs, behind => by
    have hc : 0 < c.utf8Size := c.utf8Size_pos
    obtain ⟨n, hn⟩ : ∃ n, bytes (c :: cs) = n + 1 := ⟨bytes (c :: cs) - 1, by
      simp only [bytes]; omega⟩
    rw [hn, List.cons_append, upToByte, ← hn, bytes, Nat.add_sub_cancel_left,
      upToByte_bytes cs behind]

theorem fromByte_bytes : ∀ before behind : List Char,
    fromByte (bytes before) (before ++ behind) = behind
  | [], [] => rfl
  | [], _ :: _ => rfl
  | c :: cs, behind => by
    have hc : 0 < c.utf8Size := c.utf8Size_pos
    obtain ⟨n, hn⟩ : ∃ n, bytes (c :: cs) = n + 1 := ⟨bytes (c :: cs) - 1, by
      simp only [bytes]; omega⟩
    rw [hn, List.cons_append, fromByte, ← hn, bytes, Nat.add_sub_cancel_left,
      fromByte_bytes cs behind]

theorem slice_bytes (before part behind : List Char) :
    slice (bytes before) (bytes before + bytes part) (before ++ part ++ behind) = part := by
  rw [slice, List.append_assoc, fromByte_bytes, Nat.add_sub_cancel_left, upToByte_bytes]

theorem bytes_append : ∀ before behind : List Char,
    bytes (before ++ behind) = bytes before + bytes behind
  | [], _ => by simp [bytes]
  | c :: cs, behind => by simp [bytes, bytes_append cs behind, Nat.add_assoc]

theorem charAround?_of_le {place : Nat} : ∀ {start : Nat} (cs : List Char), place ≤ start →
    charAround? place start cs = none
  | _, [], _ => rfl
  | start, c :: cs, h => by
    rw [charAround?, if_neg (by omega), charAround?_of_le cs (by omega)]

theorem charAround?_bytes : ∀ (start : Nat) (before behind : List Char),
    charAround? (start + bytes before) start (before ++ behind) = none
  | start, [], behind => charAround?_of_le behind (by simp [bytes])
  | start, c :: cs, behind => by
    rw [List.cons_append, charAround?, if_neg (by simp only [bytes]; omega), bytes,
      ← Nat.add_assoc, charAround?_bytes]

/-- Between places at which characters start, nothing is split. -/
theorem slice?_bytes (before part behind : List Char) :
    slice? (bytes before) (bytes before + bytes part) (before ++ part ++ behind) = .ok part := by
  have hstart := charAround?_bytes 0 before (part ++ behind)
  have hstop := charAround?_bytes 0 (before ++ part) behind
  rw [Nat.zero_add, ← List.append_assoc] at hstart
  rw [Nat.zero_add, bytes_append] at hstop
  rw [slice?, hstart, hstop, slice_bytes]

example : (slice? 0 2 "é-".toList).toOption = some ['é'] ∧
    (slice? 1 2 "é-".toList).toOption = none := by decide +kernel

end Dataflow.Text
