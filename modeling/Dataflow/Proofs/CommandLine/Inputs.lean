/-
The inputs that a call of the tool makes. If none is too large they are all made,
and the workspace holds each name with the shape of the last input of this name,
whatever the seed (`feedInputs_ok`). The net misses just the external inputs that
no input names (`missingInputs_eq`).
-/
import Dataflow.CommandLine.Tool
import Dataflow.Proofs.Operator.Shapes
import Dataflow.Proofs.Tensor.Sources

namespace Dataflow

/-- The shape that some inputs give to a name: that of the last input of this name. -/
def InputShape.last? (inputs : List InputShape) (name : String) : Option Shape :=
  (inputs.reverse.find? (·.name == name)).map InputShape.shape

namespace InputShape

theorem last?_cons (input : InputShape) (rest : List InputShape) (name : String) :
    last? (input :: rest) name = (last? rest name <|> if name = input.name then some input.shape else none) := by
  rw [last?, List.reverse_cons, List.find?_append, last?]
  cases hfound : rest.reverse.find? (·.name == name) with
  | some i => rfl
  | none =>
    by_cases hname : name = input.name
    · simp [hname]
    · simp [hname, Ne.symm hname]

/-- A name has a shape exactly when an input names it. -/
theorem last?_isSome {inputs : List InputShape} {name : String} :
    (last? inputs name).isSome ↔ name ∈ inputs.map InputShape.name := by
  rw [last?, Option.isSome_map, List.find?_isSome, List.mem_map]
  simp only [List.mem_reverse, beq_iff_eq]

/-- The tensor of the shape can be allocated. -/
def Fits (input : InputShape) : Prop := 4 * input.shape.numel ≤ Tensor.byteLimit

end InputShape

/-- The workspace holds each name with the shape of the last input of this name, and nothing else, and
every tensor has as many values as its shape has elements. -/
structure Workspace.Holds (ws : Workspace) (inputs : List InputShape) : Prop where
  consistent : ws.Consistent
  shape : ∀ name, ws.shape? name = InputShape.last? inputs name

theorem Workspace.Holds.sameShapes {ws ws' : Workspace} {inputs : List InputShape} (h : ws.Holds inputs)
    (h' : ws'.Holds inputs) : Reference.SameShapes ws ws' :=
  ⟨fun name => (h.shape name).trans (h'.shape name).symm, h.consistent, h'.consistent⟩

namespace Tool

def feeding (input : InputShape) : Event := logged s!"Feeding input {input.name} of shape {input.shape.display}"

theorem random_ok (generator : Generator) {input : InputShape} (h : input.Fits) (seed : UInt64) :
    ∃ t, Tensor.random generator input.shape seed = .ok t ∧ t.shape = input.shape ∧ t.Consistent :=
  have hmade := if_pos h
  ⟨_, hmade, rfl, Tensor.random_consistent hmade⟩

theorem feedInputs_cons {generator : Generator} {input : InputShape} {t : Tensor} {seed : UInt64}
    (ht : Tensor.random generator input.shape seed = .ok t) (rest : List InputShape) (ws : Workspace) :
    feedInputs generator seed (input :: rest) ws =
      { feedInputs generator (seed + 1) rest (ws.feed input.name t) with
        events := feeding input :: (feedInputs generator (seed + 1) rest (ws.feed input.name t)).events } := by
  simp only [feedInputs, ht]
  rfl

theorem feedInputs_shapes (generator : Generator) {inputs : List InputShape} (hfit : ∀ input ∈ inputs, input.Fits)
    (seed : UInt64) {ws : Workspace} (hws : ws.Consistent) :
    ∃ ws', (feedInputs generator seed inputs ws).outcome = .ok ws' ∧
      (feedInputs generator seed inputs ws).events = inputs.map feeding ∧ ws'.Consistent ∧
      ∀ name, ws'.shape? name = (InputShape.last? inputs name <|> ws.shape? name) := by
  induction inputs generalizing seed ws with
  | nil => exact ⟨ws, rfl, rfl, hws, fun _ => rfl⟩
  | cons input rest ih =>
    obtain ⟨hinput, hrest⟩ := List.forall_mem_cons.mp hfit
    obtain ⟨t, ht, hshape, hconsistent⟩ := random_ok generator hinput seed
    obtain ⟨ws', hout, hevents, hws', hshapes⟩ := ih hrest (seed + 1) (hws.feed input.name hconsistent)
    rw [feedInputs_cons ht]
    refine ⟨ws', hout, congrArg (_ :: ·) hevents, hws', fun name => ?_⟩
    rw [hshapes, InputShape.last?_cons, Workspace.shape?_feed, hshape]
    cases InputShape.last? rest name <;> by_cases hname : name = input.name <;> simp [hname]

/-- **The inputs are made**, if none is too large: the last input of a name gives it its shape. -/
theorem feedInputs_ok (generator : Generator) {inputs : List InputShape} (hfit : ∀ input ∈ inputs, input.Fits)
    (seed : UInt64) :
    ∃ ws, (feedInputs generator seed inputs .empty).outcome = .ok ws ∧
      (feedInputs generator seed inputs .empty).events = inputs.map feeding ∧ ws.Holds inputs := by
  obtain ⟨ws, hout, hevents, hws, hshapes⟩ := feedInputs_shapes generator hfit seed Workspace.consistent_empty
  refine ⟨ws, hout, hevents, hws, fun name => ?_⟩
  rw [hshapes]
  cases InputShape.last? inputs name <;> rfl

/-- The external inputs of a net that no input names, in the order of the net. -/
def unnamed (spec : NetSpec) (inputs : List InputShape) : List String :=
  spec.externalInputs.filter fun name => name ∉ inputs.map InputShape.name

theorem missingInputs_eq {ws : Workspace} {inputs : List InputShape} (h : ws.Holds inputs) (spec : NetSpec) :
    missingInputs spec ws = unnamed spec inputs := by
  refine List.filter_congr fun name _ => ?_
  have hcontains : ws.contains name = (ws.shape? name).isSome := by
    rw [Workspace.shape?, Option.isSome_map]
    rfl
  rw [hcontains, h.shape, Bool.eq_iff_iff, Bool.not_eq_true', ← Bool.not_eq_true, InputShape.last?_isSome,
    decide_eq_true_eq]

-- Of two inputs of one name the last one counts.
example : InputShape.last? [⟨"x", ⟨[2, 3]⟩⟩, ⟨"y", ⟨[1]⟩⟩, ⟨"x", ⟨[4]⟩⟩] "x" = some ⟨[4]⟩ := rfl

end Tool

end Dataflow
