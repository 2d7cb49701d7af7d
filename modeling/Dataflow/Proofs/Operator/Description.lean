/-
Descriptions of reference operators. The factory makes every operator from some
description, so every list of operators is that of a net that can be built.
-/
import Dataflow.Net.Basic
import Dataflow.Operator.Reference

namespace Dataflow.Reference

namespace RefOperator

def description : RefOperator → OperatorSpec
  | fullyConnected input weight bias output =>
    { opType := fcType, inputs := [input, weight, bias], outputs := [output] }
  | relu input output => { opType := reluType, inputs := [input], outputs := [output] }
  | add left right output => { opType := addType, inputs := [left, right], outputs := [output] }
  | copy input output => { opType := copyType, inputs := [input], outputs := [output] }

end RefOperator

/-- An operator is made from the descriptions of its type, with its inputs and its output. -/
theorem ofSpec_eq_ok_iff {spec : OperatorSpec} {op : RefOperator} :
    ofSpec spec = .ok op ↔
      spec.opType = op.description.opType ∧ spec.inputs = op.reads ∧ spec.outputs = [op.output] := by
  constructor
  · intro h
    unfold ofSpec at h
    split at h
    next htype => split at h <;> cases h; exact ⟨htype, ‹_›, ‹_›⟩
    split at h
    next htype => split at h <;> cases h; exact ⟨htype, ‹_›, ‹_›⟩
    split at h
    next htype => split at h <;> cases h; exact ⟨htype, ‹_›, ‹_›⟩
    split at h
    next htype => split at h <;> cases h; exact ⟨htype, ‹_›, ‹_›⟩
    cases h
  · rintro ⟨htype, hinputs, houtputs⟩
    rw [ofSpec, htype, hinputs, houtputs]
    cases op <;> rfl

theorem ofSpec_description (op : RefOperator) : ofSpec op.description = .ok op := by
  cases op <;> rfl

def specOf (name : String) (ops : List RefOperator) : NetSpec := { name, ops := ops.map RefOperator.description }

def netOf (name : String) (ops : List RefOperator) : Net RefOperator where
  name := name
  operators := List.ofFn fun i : Fin (specOf name ops).ops.length =>
    ⟨.entry (specOf name ops) i, ops.get (i.cast (by simp [specOf]))⟩

@[simp] theorem netOf_operators (name : String) (ops : List RefOperator) :
    (netOf name ops).operators.map NetOperator.op = ops := by
  refine List.ext_getElem (by simp [netOf, specOf]) fun i h _ => ?_
  simp [netOf]

theorem makeOperators_ok {σ : Type} (state : σ) : ∀ {os : List (NetOperator RefOperator)} (position : Nat),
    (∀ o ∈ os, ofSpec o.spec = .ok o.op) →
      (makeOperators factory position (os.map NetOperator.origin) state).1 = .ok os ∧
        (makeOperators factory position (os.map NetOperator.origin) state).2.1 = state
  | [], _, _ => ⟨rfl, rfl⟩
  | o :: rest, position, h => by
    have ho : ofSpec o.origin.spec = .ok o.op := h o (by simp)
    have hlater : ∀ o' ∈ rest, ofSpec o'.spec = .ok o'.op := fun o' ho' => h o' (by simp [ho'])
    obtain ⟨hrest, hstate⟩ := makeOperators_ok state (position + 1) hlater
    simp only [List.map_cons, makeOperators, factory, ho]
    rw [hrest, hstate]
    exact ⟨rfl, rfl⟩

/-- **Every list of reference operators is that of a net that can be built.** -/
theorem build_specOf {σ : Type} (name : String) (ops : List RefOperator) (state : σ) :
    (Net.build (specOf name ops) factory state).outcome = .ok (netOf name ops) := by
  have hresolved : (specOf name ops).resolvedOperators = (netOf name ops).operators.map NetOperator.origin := by
    simp only [NetSpec.resolvedOperators, netOf, List.map_ofFn]
    congr 1
    funext i
    unfold NetSpec.resolve
    split
    next hdevice => cases hdevice
    next => rfl
  have hspec : ∀ o ∈ (netOf name ops).operators, ofSpec o.spec = .ok o.op := by
    intro o ho
    obtain ⟨i, rfl⟩ := List.mem_ofFn.mp ho
    have hi : (specOf name ops).ops[i] = (ops.get (i.cast (by simp [specOf]))).description := List.getElem_map _
    simp only [NetOperator.spec, ResolvedSpec.spec, hi, ofSpec_description]
  simp only [Net.build, hresolved, (makeOperators_ok state 0 hspec).1]
  rfl

end Dataflow.Reference
