/-
The command line: options with a value, flags, and the path of a net.

A value comes attached to its option (`-w3`, `-w=3`, `--warmup=3`) or as the
next word. Letters of flags may stand in one word, before the letter of an
option with a value. A word that starts with a dash is no value, but for a
negative number behind an option that takes one. Behind `--` all words are
paths.

What is given is looked at when the next option or path comes, or at the end of
the line. So a faulty value is reported before whatever is wrong with a later
option, with one exception: an option that does not exist, a value for a flag
and a second path are reported at once.
-/
import Dataflow.CommandLine.InputShape

namespace Dataflow

open Numeric Text

structure Arguments where
  net : String
  inputs : List InputShape := []
  warmupRuns : Int := 0
  mainRuns : Int := 10
  individual : Bool := false
  seed : UInt64 := 0
  profilerRanges : Bool := false
  json : Bool := false
  deriving DecidableEq

/-- Why a command line is not followed. -/
inductive UsageError
  | helpAsked
  | versionAsked
  | unknownArgument (word : String)
  | noValue (option : String)
  | badValue (option value : String)
  | repeated (option : String)
  | unexpectedValue (flag : String)
  | emptyPath
  | noPath
  deriving DecidableEq

def UsageError.message : UsageError → String
  | helpAsked => "bench-net [OPTIONS] <NET>"
  | versionAsked => "opgraph 0.1.0"
  | unknownArgument word => s!"unexpected argument '{word}' found"
  | noValue option => s!"a value is required for '--{option}' but none was supplied"
  | badValue option value => s!"invalid value '{value}' for '--{option}'"
  | repeated option => s!"the argument '--{option}' cannot be used multiple times"
  | unexpectedValue flag => s!"unexpected value for '--{flag}' found; no more were expected"
  | emptyPath => "a value is required for '<NET>' but none was supplied"
  | noPath => "the following required arguments were not provided: <NET>"

/-- The options that take a value. Only inputs may come more than once. -/
inductive ValueOption
  | input | warmup | iter | seed
  deriving DecidableEq

inductive Flag
  | runIndividual | profilerRanges | json | help | version
  deriving DecidableEq

inductive CommandOption
  | valued (o : ValueOption)
  | flag (f : Flag)
  deriving DecidableEq

namespace ValueOption

def name : ValueOption → String
  | input => "input"
  | warmup => "warmup"
  | iter => "iter"
  | seed => "seed"

/-- Whether the next word may be a negative number. -/
def takesNegative : ValueOption → Bool
  | warmup | iter => true
  | input | seed => false

end ValueOption

def Flag.name : Flag → String
  | runIndividual => "run-individual"
  | profilerRanges => "profiler-ranges"
  | json => "json"
  | help => "help"
  | version => "version"

namespace CommandOption

def name : CommandOption → String
  | valued o => o.name
  | flag f => f.name

def all : List CommandOption :=
  [valued .input, valued .warmup, valued .iter, valued .seed, flag .runIndividual,
    flag .profilerRanges, flag .json, flag .help, flag .version]

/-- The option of a name, which must be complete. -/
def ofName (name : String) : Option CommandOption := all.find? (·.name == name)

def ofLetter : Char → Option CommandOption
  | 'i' => some (valued .input)
  | 'w' => some (valued .warmup)
  | 'n' => some (valued .iter)
  | 'r' => some (flag .runIndividual)
  | 'h' => some (flag .help)
  | 'V' => some (flag .version)
  | _ => none

end CommandOption

namespace Arguments

/-- What has been given so far. -/
structure Draft where
  net : Option String := none
  inputs : List InputShape := []
  warmupRuns : Option Int := none
  mainRuns : Option Int := none
  seed : Option UInt64 := none
  raised : List Flag := []

def readRuns (o : ValueOption) (value : String) : Except UsageError Int :=
  (readInteger 2147483648 value.toList).mapError fun _ => .badValue o.name value

def readSeed (value : String) : Except UsageError UInt64 :=
  match readCount wordLimit value.toList with
  | .ok n => .ok (.ofNat n)
  | .error _ => .error (.badValue ValueOption.seed.name value)

namespace Draft

def give (d : Draft) (o : ValueOption) (value : String) : Except UsageError Draft :=
  match o with
  | .input =>
    match InputShape.parse value with
    | .ok shape => .ok { d with inputs := d.inputs ++ [shape] }
    | .error _ => .error (.badValue o.name value)
  | .warmup => do
    if d.warmupRuns.isSome then .error (.repeated o.name)
    else return { d with warmupRuns := ← readRuns o value }
  | .iter => do
    if d.mainRuns.isSome then .error (.repeated o.name)
    else return { d with mainRuns := ← readRuns o value }
  | .seed => do
    if d.seed.isSome then .error (.repeated o.name)
    else return { d with seed := ← readSeed value }

def raise (d : Draft) : Flag → Except UsageError Draft
  | .help => .error .helpAsked
  | .version => .error .versionAsked
  | f =>
    if d.raised.contains f then .error (.repeated f.name)
    else .ok { d with raised := f :: d.raised }

/-- The arguments of a draft, where only the path has no default. -/
def finish (d : Draft) : Except UsageError Arguments :=
  match d.net with
  | none => .error .noPath
  | some net => .ok
    { net
      inputs := d.inputs
      warmupRuns := d.warmupRuns.getD 0
      mainRuns := d.mainRuns.getD 10
      individual := d.raised.contains .runIndividual
      seed := d.seed.getD 0
      profilerRanges := d.raised.contains .profilerRanges
      json := d.raised.contains .json }

end Draft

inductive Pending
  | nothing
  | option (o : ValueOption)
  | value (o : ValueOption) (value : String)
  | path (path : String)

structure Progress where
  draft : Draft := {}
  pending : Pending := .nothing
  pathSeen : Bool := false
  onlyPaths : Bool := false

namespace Progress

def settle (p : Progress) : Except UsageError Draft :=
  match p.pending with
  | .nothing => .ok p.draft
  | .option o => .error (.noValue o.name)
  | .value o value => p.draft.give o value
  | .path path => if path = "" then .error .emptyPath else .ok { p.draft with net := some path }

def settled (p : Progress) (draft : Draft) : Progress := { p with draft, pending := .nothing }

/-- Takes an option with its value attached. -/
def attach (p : Progress) (o : ValueOption) (value : String) : Except UsageError Progress := do
  return p.settled (← (← p.settle).give o value)

/-- Takes an option whose value is to come. -/
def await (p : Progress) (o : ValueOption) : Except UsageError Progress := do
  return { p with draft := ← p.settle, pending := .option o }

def raise (p : Progress) (f : Flag) : Except UsageError Progress := do
  return p.settled (← (← p.settle).raise f)

/-- Takes an option by its name, with the value attached if there is one. -/
def named (p : Progress) (name : List Char) : Except UsageError Progress :=
  let (name, value) :=
    match cut '=' name with
    | some (name, value) => (String.ofList name, some (String.ofList value))
    | none => (String.ofList name, none)
  match CommandOption.ofName name, value with
  | none, _ => .error (.unknownArgument ("--" ++ name))
  | some (.valued o), some value => p.attach o value
  | some (.valued o), none => p.await o
  | some (.flag f), some _ => .error (.unexpectedValue f.name)
  | some (.flag f), none => p.raise f

/-- Takes options by their letters. Behind the letter of an option with a value comes the value. -/
def lettered (p : Progress) : List Char → Except UsageError Progress
  | [] => .ok p
  | c :: rest =>
    match CommandOption.ofLetter c with
    | none => .error (.unknownArgument (String.ofList ['-', c]))
    | some (.flag f) => do (← p.raise f).lettered rest
    | some (.valued o) =>
      match rest with
      | [] => p.await o
      | '=' :: value => p.attach o (String.ofList value)
      | value => p.attach o (String.ofList value)

def path (p : Progress) (word : String) : Except UsageError Progress := do
  if p.pathSeen then .error (.unknownArgument word)
  else return { p with draft := ← p.settle, pending := .path word, pathSeen := true }

/-- Takes a word that is no option: the value of the option before it, or a path. -/
def plain (p : Progress) (word : String) : Except UsageError Progress :=
  match p.pending with
  | .option o => .ok { p with pending := .value o word }
  | _ => p.path word

/-- Whether the option before may take a negative number. -/
def awaitsNegative (p : Progress) : Bool :=
  match p.pending with
  | .option o => o.takesNegative
  | _ => false

/-- Whether digits go on as those of a number: with one point, and one `e` of either case that is
not the last character, and no point behind it. -/
def isNumberTail (pointSeen markSeen : Bool) : List Char → Bool
  | [] => true
  | '.' :: rest => !pointSeen && !markSeen && isNumberTail true markSeen rest
  | c :: rest =>
    if c = 'e' ∨ c = 'E' then !markSeen && !rest.isEmpty && isNumberTail pointSeen true rest
    else (digit? c).isSome && isNumberTail pointSeen markSeen rest

/-- Whether what stands behind a dash makes it a negative number. -/
def isNumber : List Char → Bool
  | [] => false
  | c :: rest => (digit? c).isSome && isNumberTail false false rest

def step (p : Progress) (word : String) : Except UsageError Progress :=
  if p.onlyPaths then p.path word
  else
    match word.toList with
    | ['-', '-'] => .ok { p with onlyPaths := true }
    | '-' :: '-' :: name => p.named name
    | '-' :: c :: rest =>
      if p.awaitsNegative && isNumber (c :: rest) then p.plain word else p.lettered (c :: rest)
    | _ => p.plain word

end Progress

def parse (words : List String) : Except UsageError Arguments := do
  (← (← words.foldlM Progress.step {}).settle).finish

end Arguments

end Dataflow
