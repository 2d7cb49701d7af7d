/-
Which log entries are kept. A filter is written as directives with commas
between them. A directive is a level for everything (`debug`), a level for the
parts of the program whose names start with a target (`net=trace`), or a target
alone, which keeps all of it. Behind the target, brackets may narrow it down
(`net[range{label=Relu}]=debug`): to ranges of a name, to what has a certain
field, or to ranges where the field has a certain value.

A text with blanks in front is cut at places that are counted without them. A
place inside a character then breaks off the reading of the whole filter.

Of the directives that apply to an entry the one with the longest target
decides; an entry to which none applies is dropped. A range that a narrowed
directive is about is kept as far as any directive reaches its level.
Without any directive, everything up to `info` is kept.
-/
import Dataflow.Numeric.Count
import Dataflow.Pattern.Fault
import Dataflow.Text.Blank
import Dataflow.Text.Bytes
import Dataflow.Text.Split
import Dataflow.Trace.Log

namespace Dataflow

open Text

/-- A field that a directive asks for. What its value has to be only matters for what is logged
inside a range. -/
structure FieldFilter where
  name : String
  value : Option String
  deriving DecidableEq

/-- A directive of a filter: the least severe level kept, none when nothing is, of the targets
that start with a text, narrowed down to ranges of a name or to what has a field. -/
structure LogDirective where
  target : Option String := none
  span : Option String := none
  field : Option FieldFilter := none
  most : Option Level := some .trace
  deriving DecidableEq

inductive DirectiveFault
  | malformed
  | badLevel
  | badPattern (fault : PatternFault)
  /-- a word that would start or end inside a character -/
  | split (place : SplitPlace)
  deriving DecidableEq

def DirectiveFault.message : DirectiveFault → String
  | malformed => "invalid filter directive"
  | badLevel =>
    "error parsing level filter: expected one of \"off\", \"error\", \"warn\", \"info\", " ++
    "\"debug\", \"trace\", or a number 0-5"
  | badPattern fault => "invalid field filter: " ++ fault.message
  | split place => place.message

/-- A filter: its directives in the order in which they were written. -/
structure LogFilter where
  directives : List LogDirective
  deriving DecidableEq

structure LogSource where
  level : Level
  target : String
  fields : List String

namespace FieldFilter

/-- Whether digits follow each other up to the end, with one point and a power of ten at most. -/
def isDecimal (cs : List Char) : Bool :=
  let whole := cs.takeWhile Char.isDigit
  let (fraction, rest) := match cs.drop whole.length with
    | '.' :: rest => rest.span Char.isDigit
    | rest => ([], rest)
  let power := match rest with
    | [] => true
    | c :: rest =>
      let digits := match rest with
        | '+' :: digits | '-' :: digits => digits
        | digits => digits
      (c = 'e' || c = 'E') && !digits.isEmpty && digits.all Char.isDigit
  !(whole.isEmpty && fraction.isEmpty) && power

/-- Whether a value is a number that starts with a plus. Numbers of any other form are patterns,
too. -/
def isPositiveNumber : List Char → Bool
  | '+' :: cs =>
    isDecimal cs || ["inf", "infinity", "nan"].contains (String.ofList (cs.map Char.toLower))
  | _ => false

/-- The field of a text, by its name or by name and value. The value is a number or a pattern, and
ends before a second equality sign. -/
def parse (text : List Char) : Except DirectiveFault FieldFilter :=
  match pieces '=' text with
  | [] | [[]] => .error .malformed
  | [name] => .ok ⟨String.ofList name, none⟩
  | name :: value :: _ =>
    match Pattern.fault? value with
    | some fault =>
      if isPositiveNumber value then .ok ⟨String.ofList name, some (String.ofList value)⟩
      else .error (.badPattern fault)
    | none => .ok ⟨String.ofList name, some (String.ofList value)⟩

end FieldFilter

namespace LogDirective

/-- The level of a name in any case, or of its number in the order of severity; `off` and zero
keep nothing. -/
def readLevel (word : List Char) : Option (Option Level) :=
  let levels : List Level := [.error, .warn, .info, .debug, .trace]
  match Numeric.readCount Numeric.wordLimit word with
  | .ok 0 => some none
  | .ok n => (levels.find? (·.rank == n)).map some
  | .error _ =>
    let word := String.ofList (word.map Char.toUpper)
    if word = "OFF" then some none else (levels.find? (·.name == word)).map some

def startsTarget (c : Char) : Bool := c == '-' || c == ':' || c == '_' || isAlphanumeric c

/-- The directive with the level of a word, all of it if there is none. -/
def withLevel (d : LogDirective) (word : List Char) : Except DirectiveFault LogDirective :=
  if word.isEmpty then .ok d
  else
    match readLevel word with
    | some most => .ok { d with most }
    | none => .error .badLevel

/-! A directive is read by the marks in it, blanks at its ends left out. The words between the
marks are taken by their places in bytes from the text with its blanks. -/

def word (start stop : Nat) (text : List Char) : Except DirectiveFault (List Char) :=
  (slice? start stop text).mapError .split

def parseLevel (d : LogDirective) (text : List Char) (sign : Nat) :
    Except DirectiveFault LogDirective := do
  d.withLevel (← word (sign + 1) (bytes text) text)

/-- What stands behind the closing bracket: an equality sign and a level, or nothing. -/
def parseEnd (d : LogDirective) (text : List Char) (place : Nat) :
    List Char → Except DirectiveFault LogDirective
  | [] => .ok d
  | '=' :: _ => d.parseLevel text place
  | _ => .error .malformed

/-- What stands behind the opening bracket: the name of a range, and a field between braces. -/
def parseSpan (d : LogDirective) (text : List Char) (place : Nat) (marks : List Char) :
    Except DirectiveFault LogDirective :=
  let name := marks.takeWhile fun c => c ≠ ']' && c ≠ '\x7b'
  let behind := place + bytes name
  match marks.drop name.length with
  | [] => .error .malformed
  | mark :: rest => do
    let span := String.ofList (← word place behind text)
    if mark = ']' then parseEnd { d with span := some span } text (behind + 1) rest
    else
      let field := rest.takeWhile (· ≠ '\x7d')
      let close := behind + 1 + bytes field
      match rest.drop field.length with
      | [] => .error .malformed
      | _ :: rest =>
        let field ← FieldFilter.parse (← word (behind + 1) close text)
        match rest with
        | ']' :: rest =>
          parseEnd { d with span := if span = "" then none else some span, field := some field }
            text (close + 2) rest
        | _ => .error .malformed

def parse (text : List Char) : Except DirectiveFault LogDirective :=
  match trim text with
  | [] => .error .malformed
  | '[' :: marks => parseSpan {} text 1 marks
  | c :: marks =>
    if !startsTarget c then .error .malformed
    else
      let start := (c :: marks).takeWhile fun c => c ≠ '=' && c ≠ '['
      let behind := bytes start
      match (c :: marks).drop start.length with
      | [] =>
        match readLevel text with
        | some most => .ok { most }
        | none => .ok { target := String.ofList text }
      | mark :: marks => do
        let target := String.ofList (← word 0 behind text)
        if mark = '=' then parseLevel { target } text behind
        else parseSpan { target } text (behind + 1) marks

/-- Whether the directive asks for the value of a field. -/
def isValued (d : LogDirective) : Bool := d.field.any (·.value.isSome)

def isAboutRanges (d : LogDirective) : Bool := d.span.isSome || d.isValued

def appliesTo (d : LogDirective) (target : String) : Bool :=
  d.target.all fun start => target.startsWith start

/-- Whether what has some fields has the one that the directive asks for. -/
def findsField (d : LogDirective) (fields : List String) : Bool :=
  d.field.all fun f => fields.contains f.name

def reaches (d : LogDirective) (level : Level) : Bool := d.most.any level.within

/-- How narrow a target is: a longer one is narrower, and none is the widest. -/
def targetRank (d : LogDirective) : Nat :=
  match d.target with
  | none => 0
  | some target => target.utf8ByteSize + 1

/-- Whether another directive that applies to the same target goes first: one with a longer
target, then one with a field, then the one whose field comes later in the alphabet. Of directives
that are alike in this the later one goes first. -/
def yieldsTo (d later : LogDirective) : Bool :=
  if d.targetRank ≠ later.targetRank then d.targetRank < later.targetRank
  else
    match d.field, later.field with
    | none, _ => true
    | some _, none => false
    | some f, some g => !(g.name < f.name)

end LogDirective

namespace LogFilter

def parts (text : String) : List (List Char) := (pieces ',' text.toList).filter (!·.isEmpty)

/-- The filter that a text describes. -/
def parse (text : String) : LogFilter :=
  match (parts text).filterMap fun part => (LogDirective.parse part).toOption with
  | [] => ⟨[{ most := some .info }]⟩
  | directives => ⟨directives⟩

def faultOf? (part : List Char) : Option (String × DirectiveFault) :=
  match LogDirective.parse part with
  | .ok _ => none
  | .error fault => some (String.ofList part, fault)

/-- The place inside a character at which the reading of a part breaks off, if it does. -/
def brokenAt? (part : List Char) : Option SplitPlace :=
  match LogDirective.parse part with
  | .error (.split place) => some place
  | _ => none

/-- The place at which the reading of a text breaks off, if it does. -/
def breakOff? (text : String) : Option SplitPlace := (parts text).findSome? brokenAt?

/-- The parts of a text that are no directives, up to where the reading breaks off, and what is
wrong with them. -/
def ignored (text : String) : List (String × DirectiveFault) :=
  ((parts text).takeWhile fun part => (brokenAt? part).isNone).filterMap faultOf?

def decisive? : List LogDirective → Option LogDirective
  | [] => none
  | first :: rest => some (rest.foldl (fun a b => if a.yieldsTo b then b else a) first)

/-- The directives for entries and for ranges that no narrowed directive is about. -/
def plain (f : LogFilter) (target : String) : List LogDirective :=
  f.directives.filter fun d => !d.isAboutRanges && d.appliesTo target

/-- Whether an entry is kept. -/
def admits (f : LogFilter) (e : LogSource) : Bool :=
  (decisive? ((f.plain e.target).filter (·.findsField e.fields))).any (·.reaches e.level)

def narrows (f : LogFilter) (name : String) (r : LogSource) : Bool :=
  f.directives.any fun d => (d.span.isSome || d.field.isSome) && d.appliesTo r.target &&
    d.span.all (· == name) && d.findsField r.fields

/-- Whether any directive reaches a level. One that asks for a value has to see every range. -/
def reaches (f : LogFilter) (level : Level) : Bool :=
  f.directives.any fun d => d.isValued || d.reaches level

/-- Whether a range of a name is kept. -/
def admitsRange (f : LogFilter) (name : String) (r : LogSource) : Bool :=
  if f.narrows name r then f.reaches r.level
  else (decisive? (f.plain r.target)).any (·.reaches r.level)

end LogFilter

end Dataflow
