/-
The iterations of a benchmark that time every operator on its own, by a loop
of their own. What they do besides running operators (they clear them, ask for
shapes and estimate costs) goes unnoticed by runs, so an iteration does what a
run of the net does, and iterations in a row what runs in a row do
(`Unnoticed.timeIterations`).
-/
import Dataflow.Benchmark.Run
import Dataflow.Proofs.Net.Alike

namespace Dataflow

variable {Op World : Type} [Operator Op World] {R : World → World → Prop}

/-- Runs do not tell apart the worlds that `R` relates, and to clear an operator or to ask it for
the shapes of its inputs leads to a related world only. -/
structure Unnoticed (Op : Type) {World : Type} [Operator Op World] (R : World → World → Prop) : Prop where
  equivalence : Equivalence R
  run : RunsAlike Op R
  reset : ∀ (op : Op) (w : World), R (Operator.reset op w) w
  asked : ∀ (op : Op) (w : World), R (Operator.inputShapes op w).2 w

def Timed.effect (t : Timed Op World) : Effect Op World := ⟨t.operators, t.world, t.failure⟩

/-! ## One iteration -/

/-- An operator is costed when its type is and it reports as many shapes as it has inputs. -/
theorem estimateCost_cost (schemas : SchemaRegistry) (position : Nat) (o : NetOperator Op) (world : World) :
    (estimateCost schemas position o world).1 =
      match schemas.costFunction? o.spec.opType with
      | none => none
      | some f =>
        if (Operator.inputShapes o.op world).1.length = o.spec.inputs.length then
          some (f o.spec (Operator.inputShapes o.op world).1)
        else none := by
  unfold estimateCost
  cases schemas.costFunction? o.spec.opType with
  | none => rfl
  | some f =>
    by_cases h : (Operator.inputShapes o.op world).1.length = o.spec.inputs.length <;> simp [h]

theorem estimateCost_world (schemas : SchemaRegistry) (position : Nat) (o : NetOperator Op) (world : World) :
    (estimateCost schemas position o world).2.1 =
      match schemas.costFunction? o.spec.opType with
      | none => world
      | some _ => (Operator.inputShapes o.op world).2 := by
  unfold estimateCost
  cases schemas.costFunction? o.spec.opType with
  | none => rfl
  | some f =>
    by_cases h : (Operator.inputShapes o.op world).1.length = o.spec.inputs.length <;> simp [h]

/-- What is done about the cost of an operator before it runs. -/
def TimingSetting.estimate (setting : TimingSetting) (position : Nat) (o : NetOperator Op) (world : World) :
    Option Cost × World × List Event :=
  match setting.schemas with
  | some schemas => estimateCost schemas position o world
  | none => (none, world, [])

theorem timeOperators_cons_failed {setting : TimingSetting} {position : Nat} {o : NetOperator Op}
    {rest : List (NetOperator Op)} {world : World} {cause : Failure}
    (h : (Operator.run o.op (setting.estimate position o world).2.1).failure = some cause) :
    timeOperators setting position (o :: rest) world =
      let estimated := setting.estimate position o world
      let ran := Operator.run o.op estimated.2.1
      { operators := { o with op := ran.op } :: rest
        world := ran.world
        events := estimated.2.2 ++ [.operatorRun position]
        costs := [estimated.1]
        failure := some (o.failed position cause) } := by
  obtain ⟨_ | schemas, clock⟩ := setting <;>
  · simp only [TimingSetting.estimate] at h
    simp only [timeOperators, TimingSetting.estimate, h]

theorem timeOperators_cons_ran {setting : TimingSetting} {position : Nat} {o : NetOperator Op}
    {rest : List (NetOperator Op)} {world : World}
    (h : (Operator.run o.op (setting.estimate position o world).2.1).failure = none) :
    timeOperators setting position (o :: rest) world =
      let estimated := setting.estimate position o world
      let ran := Operator.run o.op estimated.2.1
      let later := timeOperators setting (position + 1) rest ran.world
      { later with
        operators := { o with op := ran.op } :: later.operators
        events := estimated.2.2 ++ [.operatorRun position] ++ later.events
        samples := ⟨position, o.spec.opType, setting.clock position⟩ :: later.samples
        costs := estimated.1 :: later.costs } := by
  obtain ⟨_ | schemas, clock⟩ := setting <;>
  · simp only [TimingSetting.estimate] at h
    simp only [timeOperators, TimingSetting.estimate, h]

/-- In an iteration that does not fail, the first operator runs, and nothing fails behind it. -/
theorem timeOperators_ok_cons {setting : TimingSetting} {position : Nat} {o : NetOperator Op}
    {rest : List (NetOperator Op)} {world : World}
    (hok : (timeOperators setting position (o :: rest) world).failure = none) :
    let ran := Operator.run o.op (setting.estimate position o world).2.1
    ran.failure = none ∧ (timeOperators setting (position + 1) rest ran.world).failure = none := by
  intro ran
  cases ho : ran.failure with
  | some cause => rw [timeOperators_cons_failed ho] at hok; cases hok
  | none => rw [timeOperators_cons_ran ho] at hok; exact ⟨rfl, hok⟩

/-- The first of some iterations, behind the clearing of the operators. -/
def firstIteration (schemas : Option SchemaRegistry) (clock : Clock) (ops : List (NetOperator Op)) (world : World) :
    Timed Op World :=
  timeOperators ⟨schemas, clock⟩ 0 ops (resetOperators 0 ops world).1

theorem timeIterations_succ_failed {schemas : Option SchemaRegistry} {clock : Clock} {ops : List (NetOperator Op)}
    {world : World} {e : NetError} (h : (firstIteration schemas clock ops world).failure = some e) (count : Nat) :
    timeIterations schemas clock ops world (count + 1) =
      let first := firstIteration schemas clock ops world
      { first with events := (resetOperators 0 ops world).2 ++ first.events } := by
  unfold firstIteration at *
  simp only [timeIterations, h]

theorem timeIterations_succ_ran {schemas : Option SchemaRegistry} {clock : Clock} {ops : List (NetOperator Op)}
    {world : World} (h : (firstIteration schemas clock ops world).failure = none) (count : Nat) :
    timeIterations schemas clock ops world (count + 1) =
      let first := firstIteration schemas clock ops world
      let later := timeIterations none (fun k => clock (k + ops.length)) first.operators first.world count
      { later with
        events := (resetOperators 0 ops world).2 ++ first.events ++ later.events
        samples := first.samples ++ later.samples
        costs := first.costs } := by
  unfold firstIteration at *
  simp only [timeIterations, h]

theorem timeIterations_ok_succ {schemas : Option SchemaRegistry} {clock : Clock} {ops : List (NetOperator Op)}
    {world : World} {count : Nat} (hok : (timeIterations schemas clock ops world (count + 1)).failure = none) :
    let first := firstIteration schemas clock ops world
    first.failure = none ∧
      (timeIterations none (fun k => clock (k + ops.length)) first.operators first.world count).failure = none := by
  intro first
  cases hf : first.failure with
  | some e => rw [timeIterations_succ_failed hf] at hok; exact absurd (hf.symm.trans hok) nofun
  | none => rw [timeIterations_succ_ran hf] at hok; exact ⟨rfl, hok⟩

namespace Unnoticed

/-- To estimate a cost goes unnoticed. -/
theorem estimate (h : Unnoticed Op R) (setting : TimingSetting) (position : Nat) (o : NetOperator Op) (w : World) :
    R (setting.estimate position o w).2.1 w := by
  unfold TimingSetting.estimate
  cases setting.schemas with
  | none => exact h.equivalence.refl w
  | some schemas =>
    simp only [estimateCost_world]
    cases schemas.costFunction? o.spec.opType with
    | none => exact h.equivalence.refl w
    | some f => exact h.asked o.op w

theorem resetOperators (h : Unnoticed Op R) : ∀ (position : Nat) (ops : List (NetOperator Op)) (w : World),
    R (resetOperators position ops w).1 w
  | _, [], w => h.equivalence.refl w
  | position, o :: rest, w =>
    h.equivalence.trans (h.resetOperators (position + 1) rest (Operator.reset o.op w)) (h.reset o.op w)

/-- The loop that times operators does what a pass does. -/
theorem timeOperators (h : Unnoticed Op R) (setting : TimingSetting) :
    ∀ (position : Nat) (ops : List (NetOperator Op)) {w w' : World}, R w w' →
      (timeOperators setting position ops w).effect.Alike R (pass position ops w')
  | _, [], _, _, hw => ⟨rfl, rfl, hw⟩
  | position, o :: rest, w, w', hw => by
    have hw₁ := h.equivalence.trans (h.estimate setting position o w) hw
    obtain ⟨hop, hfail, hworld⟩ := h.run o.op _ _ hw₁
    cases hf : (Operator.run o.op w').failure with
    | some cause =>
      rw [pass_cons_failed hf, timeOperators_cons_failed (hfail.trans hf), ← hop]
      exact ⟨rfl, rfl, hworld⟩
    | none =>
      have ih := h.timeOperators setting (position + 1) rest hworld
      rw [pass_cons_ran hf, timeOperators_cons_ran (hfail.trans hf), ← hop]
      exact ⟨congrArg (_ :: ·) ih.operators, ih.failure, ih.world⟩

theorem firstIteration (h : Unnoticed Op R) (schemas : Option SchemaRegistry) (clock : Clock)
    (ops : List (NetOperator Op)) {w w' : World} (hw : R w w') :
    (firstIteration schemas clock ops w).effect.Alike R (pass 0 ops w') :=
  h.timeOperators ⟨schemas, clock⟩ 0 ops (h.equivalence.trans (h.resetOperators 0 ops w) hw)

/-- Iterations that time every operator on its own do what as many runs of the net do. -/
theorem timeIterations (h : Unnoticed Op R) :
    ∀ (count : Nat) (schemas : Option SchemaRegistry) (clock : Clock) (net : Net Op) {w w' : World}, R w w' →
      (timeIterations schemas clock net.operators w count).effect.Alike R (net.runTimes w' count).1.effect
  | 0, _, _, _, _, _, hw => ⟨rfl, rfl, hw⟩
  | count + 1, schemas, clock, net, w, w', hw => by
    have hfirst := h.firstIteration schemas clock net.operators hw
    rw [← net.run_effect w'] at hfirst
    have hfail := hfirst.failure
    cases ho : (net.run w').outcome with
    | error e =>
      simp only [After.effect, ho] at hfail
      rw [Net.runTimes_succ_of_error ho, timeIterations_succ_failed hfail]
      exact hfirst
    | ok _ =>
      simp only [After.effect, ho] at hfail
      have ih := h.timeIterations count none (fun k => clock (k + net.operators.length)) (net.run w').net
        hfirst.world
      rw [Net.runTimes_succ_of_ok ho, timeIterations_succ_ran hfail]
      have hops : (Dataflow.firstIteration schemas clock net.operators w).operators = (net.run w').net.operators :=
        hfirst.operators
      rw [← hops] at ih
      exact ⟨ih.operators, ih.failure, ih.world⟩

end Unnoticed

end Dataflow
