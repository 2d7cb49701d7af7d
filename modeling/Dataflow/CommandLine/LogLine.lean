/-
What the tool writes on the log: for every entry its level, the part of the
program it comes from, its message and its fields, or the same as a JSON object
on one line. The end of a range is an entry, too.
-/
import Dataflow.CommandLine.LogFilter
import Dataflow.Trace.Event

namespace Dataflow

open Text

namespace FieldValue

def display : FieldValue → String
  | text s => quoted s
  | number n => toString n

def toJson : FieldValue → Json
  | text s => .text s
  | number n => .ofNat n

end FieldValue

namespace LogEntry

def displayFields (e : LogEntry) : String :=
  String.join (e.fields.map fun (name, value) => s!" {name}={value.display}")

/-- A character of a message: a control that could steer a terminal is spelled by its code. -/
def displayChar (c : Char) : List Char :=
  let n := c.toNat
  if n = 0x7 ∨ n = 0x8 ∨ n = 0xc ∨ n = 0x1b ∨ n = 0x7f then
    ['\\', 'x', Nat.digitChar (n / 16), Nat.digitChar (n % 16)]
  else if 0x80 ≤ n ∧ n ≤ 0x9f then ['\\', 'u', '{'] ++ Nat.toDigits 16 n ++ ['}']
  else [c]

/-- The message as a line shows it. It may hold line breaks. -/
def displayMessage (e : LogEntry) : String := String.ofList (e.message.toList.flatMap displayChar)

def line (e : LogEntry) : String :=
  s!"{e.level.name} {e.target}: {e.displayMessage}{e.displayFields}"

def source (e : LogEntry) : LogSource := ⟨e.level, e.target, "message" :: e.fields.map (·.1)⟩

def toJson (e : LogEntry) : Json :=
  .object [("level", .text e.level.name),
    ("fields", .object (("message", .text e.message) ::
      e.fields.map fun (name, value) => (name, value.toJson))),
    ("target", .text e.target)]

end LogEntry

namespace Event

def rangeName : String := "range"

def rangeSource : LogSource := ⟨.debug, LogTarget.trace, ["label", "color"]⟩

def closeLine : String := s!"{Level.debug.name} {rangeName}: {LogTarget.trace}: close"

def closeJson (r : ProfilerRange) : Json :=
  .object [("level", .text Level.debug.name), ("fields", .object [("message", .text "close")]),
    ("target", .text LogTarget.trace),
    ("span", .object [("color", .ofNat r.color.argb), ("label", .text r.label),
      ("name", .text rangeName)])]

/-- The entry that an event leaves on the log, trace events included. -/
def entry? : Event → Option LogEntry
  | .log e => some e
  | e => e.traceEntry

def line? (filter : LogFilter) (asJson : Bool) (event : Event) : Option String :=
  match event.entry?, event.spanChange with
  | some e, _ =>
    if filter.admits e.source then some (if asJson then e.toJson.compact else e.line)
    else none
  | none, some (false, r) =>
    if filter.admitsRange rangeName rangeSource then
      some (if asJson then (closeJson r).compact else closeLine)
    else none
  | none, _ => none

end Event

end Dataflow
