/-
Worlds that runs do not tell apart. When operators run alike from related
worlds and leave related worlds (`RunsAlike`), so do passes and runs of a net
in a row: nets of the same operators on related worlds do the same, and only
the worlds differ afterwards.
-/
import Dataflow.Proofs.Net.Calls

namespace Dataflow

variable {Op World : Type} [Operator Op World] {R : World → World → Prop}

/-- Operators run alike from worlds that `R` relates, and leave such worlds. -/
def RunsAlike (Op : Type) {World : Type} [Operator Op World] (R : World → World → Prop) : Prop :=
  ∀ (op : Op) (w w' : World), R w w' →
    (Operator.run op w).op = (Operator.run op w').op ∧
      (Operator.run op w).failure = (Operator.run op w').failure ∧
      R (Operator.run op w).world (Operator.run op w').world

/-- Effects that differ in their worlds only, which are related. -/
structure Effect.Alike (R : World → World → Prop) (a b : Effect Op World) : Prop where
  operators : a.operators = b.operators
  failure : a.failure = b.failure
  world : R a.world b.world

omit [Operator Op World] in
theorem Effect.Alike.outcome {a b : After Op World Unit} (h : a.effect.Alike R b.effect) :
    a.outcome = b.outcome := by
  rw [After.outcome_eq, After.outcome_eq, Effect.outcome, Effect.outcome, h.failure]

namespace RunsAlike

theorem pass (h : RunsAlike Op R) : ∀ (position : Nat) (ops : List (NetOperator Op)) {w w' : World}, R w w' →
    (pass position ops w).Alike R (pass position ops w')
  | _, [], _, _, hw => ⟨rfl, rfl, hw⟩
  | position, o :: rest, w, w', hw => by
    obtain ⟨hop, hfail, hworld⟩ := h o.op w w' hw
    cases hf : (Operator.run o.op w').failure with
    | some cause =>
      rw [pass_cons_failed hf, pass_cons_failed (hfail.trans hf), hop]
      exact ⟨rfl, rfl, hworld⟩
    | none =>
      have ih := h.pass (position + 1) rest hworld
      rw [pass_cons_ran hf, pass_cons_ran (hfail.trans hf), hop]
      exact ⟨congrArg (_ :: ·) ih.operators, ih.failure, ih.world⟩

theorem run (h : RunsAlike Op R) {net net' : Net Op} {w w' : World} (hops : net.operators = net'.operators)
    (hw : R w w') : (net.run w).effect.Alike R (net'.run w').effect := by
  rw [net.run_effect, net'.run_effect, hops]
  exact h.pass 0 net'.operators hw

/-- Runs in a row of the same operators from related worlds stop at the same call. -/
theorem runTimes (h : RunsAlike Op R) : ∀ (count : Nat) {net net' : Net Op} {w w' : World},
    net.operators = net'.operators → R w w' →
      (net.runTimes w count).1.effect.Alike R (net'.runTimes w' count).1.effect ∧
        (net.runTimes w count).2 = (net'.runTimes w' count).2
  | 0, _, _, _, _, hops, hw => ⟨⟨hops, rfl, hw⟩, rfl⟩
  | count + 1, net, net', w, w', hops, hw => by
    have hrun := h.run hops hw
    have hout := hrun.outcome
    cases ho : (net'.run w').outcome with
    | error e =>
      rw [Net.runTimes_succ_of_error ho, Net.runTimes_succ_of_error (hout.trans ho)]
      exact ⟨hrun, rfl⟩
    | ok _ =>
      obtain ⟨hlater, hcount⟩ := h.runTimes count hrun.operators hrun.world
      rw [Net.runTimes_succ_of_ok ho, Net.runTimes_succ_of_ok (hout.trans ho)]
      exact ⟨⟨hlater.operators, hlater.failure, hlater.world⟩, congrArg (· + 1) hcount⟩

end RunsAlike

end Dataflow
