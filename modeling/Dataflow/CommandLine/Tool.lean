/-
The benchmark tool: it loads the description of a net of reference operators,
fills the inputs named on the command line with pseudorandom numbers, builds
the net and benchmarks it. The checks come in this order: the command line, the
file, the inputs that the net asks for, the building of the net, the counts of
runs, and the runs themselves; the first that fails decides the error.
-/
import Dataflow.Benchmark.Run
import Dataflow.CommandLine.Arguments
import Dataflow.CommandLine.LogLine
import Dataflow.Net.Registry
import Dataflow.Operator.Reference
import Dataflow.Spec.File
import Dataflow.Text.Place

namespace Dataflow

open Numeric Text

/-- Why a call of the tool fails, once its command line is accepted. -/
inductive ToolError
  | load (e : LoadError)
  | input (e : Failure)
  | missingInputs (names : List String)
  | net (e : NetError)

/-- The message of the error and those of its causes, the outermost first. -/
def ToolError.chain : ToolError → List String
  | load e => e.chain
  | input e => [e.message]
  | missingInputs names =>
    [s!"missing shapes for external inputs {quotedList names}, pass them with --input"]
  | net e => e.chain

namespace Tool

/-- What comes of a part of a call: what happened, and a result or an error. -/
structure Stage (α : Type) where
  events : List Event
  outcome : Except ToolError α

def Stage.andThen {α β : Type} (s : Stage α) (next : α → Stage β) : Stage β :=
  match s.outcome with
  | .error e => { events := s.events, outcome := .error e }
  | .ok a =>
    let after := next a
    { after with events := s.events ++ after.events }

def logged (message : String) : Event := .logged .info LogTarget.tool message

/-- Fills the inputs, the first of them by a seed, each other by the seed after. -/
def feedInputs (generator : Generator) : UInt64 → List InputShape → Workspace → Stage Workspace
  | _, [], ws => { events := [], outcome := .ok ws }
  | seed, input :: rest, ws =>
    let announced := logged s!"Feeding input {input.name} of shape {input.shape.display}"
    match Tensor.random generator input.shape seed with
    | .error e => { events := [announced], outcome := .error (.input e) }
    | .ok t =>
      let others := feedInputs generator (seed + 1) rest (ws.feed input.name t)
      { others with events := announced :: others.events }

/-- The inputs that the net asks for and that nothing was fed for. -/
def missingInputs (spec : NetSpec) (ws : Workspace) : List String :=
  spec.externalInputs.filter fun name => !ws.contains name

/-- The environment sets the default, the command line can only turn ranges on. -/
def config (args : Arguments) (default : ExecutionConfig) : ExecutionConfig :=
  { profilerRanges := default.profilerRanges || args.profilerRanges }

structure Prepared where
  net : Net Reference.RefOperator
  workspace : Workspace

def buildNet (args : Arguments) (default : ExecutionConfig) (spec : NetSpec) (ws : Workspace) :
    Stage Prepared :=
  match missingInputs spec ws with
  | [] =>
    let built := NetRegistry.withDefaults.create spec Reference.factory () (config args default)
    { events := built.events
      outcome := (built.outcome.map fun net => ⟨net, ws⟩).mapError .net }
  | names => { events := [], outcome := .error (.missingInputs names) }

/-- Builds the net of a description, with the inputs of the command line. -/
def prepare (args : Arguments) (default : ExecutionConfig) (generator : Generator) (spec : NetSpec) :
    Stage Prepared :=
  let loaded :=
    logged s!"Loaded net {spec.name} with {spec.ops.length} operators from {quoted args.net}"
  let fed := feedInputs generator args.seed args.inputs .empty
  let built := fed.andThen (buildNet args default spec)
  { built with events := loaded :: built.events }

def benchmarkSetting (args : Arguments) (clock : Clock) : BenchmarkSetting where
  schemas := Reference.schemas
  warmupRuns := args.warmupRuns
  mainRuns := args.mainRuns
  individual := args.individual
  clock := clock

def measure (args : Arguments) (clock : Clock) (p : Prepared) : Stage BenchmarkReport :=
  let after := p.net.benchmarkReport p.workspace (benchmarkSetting args clock)
  match after.outcome with
  | .ok report =>
    { events := after.events ++
        [logged s!"Milliseconds per iteration: {plain32 report.millisPerIter}"]
      outcome := .ok report }
  | .error e => { events := after.events, outcome := .error (.net e) }

def perform (args : Arguments) (files : Files) (default : ExecutionConfig) (generator : Generator)
    (clock : Clock) : Stage BenchmarkReport :=
  match NetSpec.load files args.net with
  | .error e => { events := [], outcome := .error (.load e) }
  | .ok spec => (prepare args default generator spec).andThen (measure args clock)

/-- What surrounds a call: the files, the values of two variables of the environment, the generator of
the values of inputs, and the clock. -/
structure Surroundings where
  files : Files
  generator : Generator
  ranges : Option String := none
  logFilter : Option String := none
  clock : Clock

/-- What is seen of a call: its exit code, the entries of the log, the text of the errors, which
names no places in texts, and the reason why the call broke off, if it did. -/
structure Exit where
  code : UInt8
  output : List String
  errors : String
  broken : Option String := none

/-- A text with all lines after the first indented. -/
def indent (width : Nat) (s : String) : String :=
  let breakLine := fun c : Char => if c = '\n' then c :: List.replicate width ' ' else [c]
  String.ofList (s.toList.flatMap breakLine)

/-- The causes of an error, numbered when there are several. -/
def describeCauses : List String → String
  | [] => ""
  | [cause] => "\n\nCaused by:\n    " ++ indent 4 cause
  | causes => "\n\nCaused by:" ++
    String.join (causes.mapIdx fun n cause =>
      "\n" ++ padLeft 5 (toString n) ++ ": " ++ indent 7 cause)

def describeError : List String → String
  | [] => ""
  | message :: causes => "Error: " ++ message ++ describeCauses causes ++ "\n"

def refuse : UsageError → Exit
  | e@.helpAsked | e@.versionAsked => ⟨0, [e.message], "", none⟩
  | e => ⟨2, [], "error: " ++ e.message ++ "\n", none⟩

def breakOff (output : List String) (warnings reason : String) : Exit :=
  ⟨101, output, withoutPlaces warnings, some reason⟩

/-- The exit of a call that fails. An input that cannot be made breaks it off. -/
def fail (output : List String) (warnings : String) : ToolError → Exit
  | .input e => breakOff output warnings e.message
  | e => ⟨1, output, withoutPlaces (warnings ++ describeError e.chain), none⟩

/-- What the tool does with the words of a command line. -/
def run (words : List String) (around : Surroundings) : Exit :=
  match Arguments.parse words with
  | .error e => refuse e
  | .ok args =>
    let text := around.logFilter.getD ""
    let warnings := String.join ((LogFilter.ignored text).map fun (part, fault) =>
      "ignoring `" ++ part ++ "`: " ++ fault.message ++ "\n")
    match LogFilter.breakOff? text with
    | some place => breakOff [] warnings place.message
    | none =>
      let filter := LogFilter.parse text
      let stage := perform args around.files (.ofEnvironment around.ranges) around.generator around.clock
      let output := stage.events.filterMap (Event.line? filter args.json)
      match stage.outcome with
      | .ok _ => ⟨0, output, withoutPlaces warnings, none⟩
      | .error e => fail output warnings e

end Tool

end Dataflow
