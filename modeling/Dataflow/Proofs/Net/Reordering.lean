/-
The order of independent operators does not matter. Two operators depend on
each other when one of them writes a name that the other reads or writes. Those
that do not commute (`store?_comm`), so a rearrangement that keeps the order of
all dependent pairs can be undone step by step: the operator that came first is
moved to the front past operators that do not depend on it, and then the same
is done to the others (`foldlM_reordered`).
-/
import Dataflow.Proofs.Operator.Description
import Dataflow.Proofs.Operator.Frame
import Mathlib.Data.List.FinRange
import Mathlib.Logic.Equiv.Basic

namespace Dataflow

/-! ## Steps that commute -/

section Steps

variable {σ α ι : Type} {step : σ → α → Option σ} {Dep : α → α → Prop}

/-- A step moves to the front past steps that do not depend on it. -/
theorem foldlM_move_front (comm : ∀ a b s, ¬ Dep a b → (step s a).bind (step · b) = (step s b).bind (step · a))
    {a : α} {front back : List α} (h : ∀ b ∈ front, ¬ Dep b a) (s : σ) :
    (front ++ a :: back).foldlM step s = (a :: (front ++ back)).foldlM step s := by
  induction front generalizing s with
  | nil => rfl
  | cons b front ih =>
    obtain ⟨hb, hfront⟩ := List.forall_mem_cons.mp h
    calc (b :: (front ++ a :: back)).foldlM step s
        = (step s b).bind fun s' => (front ++ a :: back).foldlM step s' := rfl
      _ = (step s b).bind fun s' => (step s' a).bind fun s'' => (front ++ back).foldlM step s'' :=
        congrArg (Option.bind (step s b)) (funext (ih hfront))
      _ = ((step s b).bind (step · a)).bind fun s'' => (front ++ back).foldlM step s'' := by
        rw [Option.bind_assoc]
      _ = ((step s a).bind (step · b)).bind fun s'' => (front ++ back).foldlM step s'' := by
        rw [comm b a s hb]
      _ = (a :: b :: (front ++ back)).foldlM step s := by
        rw [Option.bind_assoc]; rfl

/-- **Steps in an order that keeps all dependent pairs come to the same.** The steps are named by
indices: `sorted` lists them in ascending order and `order` in another. -/
theorem foldlM_reordered [LT ι] (comm : ∀ a b s, ¬ Dep a b → (step s a).bind (step · b) = (step s b).bind (step · a))
    (f : ι → α) {sorted order : List ι} (hsorted : sorted.Pairwise (· < ·)) (hperm : order.Perm sorted)
    (hkept : order.Pairwise fun i j => j < i → ¬ Dep (f i) (f j)) (s : σ) :
    (order.map f).foldlM step s = (sorted.map f).foldlM step s := by
  induction sorted generalizing order s with
  | nil => rw [hperm.eq_nil]
  | cons first rest ih =>
    obtain ⟨hfirst, hrest⟩ := List.pairwise_cons.mp hsorted
    -- What stands before the first step in the other order comes after it, and so is independent.
    obtain ⟨front, back, rfl⟩ := List.append_of_mem (hperm.mem_iff.mpr List.mem_cons_self)
    have hperm' : (front ++ back).Perm rest := (List.perm_middle.symm.trans hperm).cons_inv
    have hfront : ∀ b ∈ front.map f, ¬ Dep b (f first) := by
      intro b hb
      obtain ⟨i, hi, rfl⟩ := List.mem_map.mp hb
      have hlt : first < i := hfirst i (hperm'.subset (by simp [hi]))
      exact (List.pairwise_append.mp hkept).2.2 i hi first (by simp) hlt
    have hkept' : (front ++ back).Pairwise fun i j => j < i → ¬ Dep (f i) (f j) :=
      hkept.sublist ((List.sublist_cons_self first back).append_left front)
    calc ((front ++ first :: back).map f).foldlM step s
        = (f first :: (front.map f ++ back.map f)).foldlM step s := by
          rw [List.map_append, List.map_cons, foldlM_move_front comm hfront s]
      _ = (step s (f first)).bind fun s' => ((front ++ back).map f).foldlM step s' := by
          rw [List.map_append]; rfl
      _ = (step s (f first)).bind fun s' => (rest.map f).foldlM step s' :=
          congrArg (Option.bind (step s (f first))) (funext (ih hrest hperm' hkept'))
      _ = ((first :: rest).map f).foldlM step s := rfl

end Steps

namespace Reference

namespace RefOperator

/-- Two operators depend on each other when one writes a name that the other reads or writes. -/
def Dependent (a b : RefOperator) : Prop := a.output ∈ b.reads ∨ b.output ∈ a.reads ∨ a.output = b.output

instance (a b : RefOperator) : Decidable (a.Dependent b) :=
  inferInstanceAs (Decidable (a.output ∈ b.reads ∨ b.output ∈ a.reads ∨ a.output = b.output))

def store? (ws : Workspace) (op : RefOperator) : Option Workspace :=
  (op.compute ws).toOption.map (ws.feed op.output)

/-- **Independent operators commute**, and either both orders succeed or none does. -/
theorem store?_comm (a b : RefOperator) (ws : Workspace) (h : ¬ a.Dependent b) :
    (store? ws a).bind (store? · b) = (store? ws b).bind (store? · a) := by
  simp only [Dependent, not_or] at h
  obtain ⟨hab, hba, hout⟩ := h
  unfold store?
  cases ha : a.compute ws with
  | error e =>
    cases hb : b.compute ws with
    | error e' => rfl
    | ok u => simp [Except.toOption, a.compute_feed hba, ha]
  | ok t =>
    cases hb : b.compute ws with
    | error e' => simp [Except.toOption, b.compute_feed hab, hb]
    | ok u =>
      simp only [Except.toOption, Option.map_some, Option.bind_some, b.compute_feed hab, a.compute_feed hba, ha, hb]
      exact congrArg some (NameMap.insert_comm ws hout t u)

end RefOperator

open RefOperator

/-- A pass succeeds exactly when all operators can store their outputs one after the other. -/
theorem pass_store? : ∀ (position : Nat) (ops : List (NetOperator RefOperator)) (ws : Workspace),
    (ops.map NetOperator.op).foldlM store? ws =
      match (pass position ops ws).failure with
      | none => some (pass position ops ws).world
      | some _ => none
  | _, [], _ => rfl
  | position, o :: rest, ws => by
    simp only [List.map_cons, List.foldlM_cons]
    cases h : o.op.compute ws with
    | error cause =>
      rw [pass_cons_refused h]
      simp [store?, h, Except.toOption]
    | ok t =>
      rw [pass_cons_stored h]
      simp only [store?, h, Except.toOption, Option.map_some, Option.bind_eq_bind, Option.bind_some]
      exact pass_store? (position + 1) rest (ws.feed o.op.output t)

theorem run_ok_iff (net : Net RefOperator) (ws ws' : Workspace) :
    ((net.run ws).outcome = .ok () ∧ (net.run ws).world = ws') ↔
      (net.operators.map NetOperator.op).foldlM store? ws = some ws' := by
  rw [net.run_outcome, net.run_world, pass_store? 0, Effect.outcome]
  cases (pass 0 net.operators ws).failure <;> simp

/-- **Reordering independent operators does not change the result.** At each place `k` of `net'` stands
the operator of `net` at the place `order k`, and no two dependent operators have changed their order:
the one net succeeds exactly when the other does, and then both leave the same workspace. -/
theorem run_reordered (net net' : Net RefOperator) (order : Fin net'.operators.length ≃ Fin net.operators.length)
    (same : ∀ k, net'.operators[k].op = net.operators[order k].op)
    (kept : ∀ i j, i < j → Dependent net'.operators[i].op net'.operators[j].op → order i < order j)
    (ws : Workspace) :
    ((net'.run ws).outcome = .ok () ↔ (net.run ws).outcome = .ok ()) ∧
      ((net.run ws).outcome = .ok () → (net'.run ws).world = (net.run ws).world) := by
  let opAt : Fin net.operators.length → RefOperator := fun i => net.operators[i].op
  have hops : net.operators.map NetOperator.op = (List.finRange net.operators.length).map opAt := by
    refine List.ext_getElem (by simp) fun i h _ => ?_
    simp [opAt]
  have hops' : net'.operators.map NetOperator.op = (List.ofFn order).map opAt := by
    refine List.ext_getElem (by simp) fun i h _ => ?_
    simpa [opAt] using same ⟨i, by simpa using h⟩
  have hperm : (List.ofFn order).Perm (List.finRange net.operators.length) := by
    refine (List.perm_ext_iff_of_nodup (List.nodup_ofFn.mpr order.injective) (List.nodup_finRange _)).mpr fun i => ?_
    simpa [List.mem_ofFn] using order.surjective i
  have hkept : (List.ofFn order).Pairwise (fun i j => j < i → ¬ Dependent (opAt i) (opAt j)) := by
    refine List.pairwise_ofFn.mpr fun i j hij hlt hdep => ?_
    simp only [opAt, ← same] at hdep
    exact absurd (kept i j hij hdep) (not_lt.mpr hlt.le)
  have hfold : (net'.operators.map NetOperator.op).foldlM store? ws =
      (net.operators.map NetOperator.op).foldlM store? ws := by
    rw [hops, hops']
    exact foldlM_reordered store?_comm opAt (List.pairwise_lt_finRange _) hperm hkept ws
  have hiff : ∀ ws', (net'.run ws).outcome = .ok () ∧ (net'.run ws).world = ws' ↔
      (net.run ws).outcome = .ok () ∧ (net.run ws).world = ws' := fun ws' => by
    rw [run_ok_iff, run_ok_iff, hfold]
  exact ⟨⟨fun h => ((hiff _).mp ⟨h, rfl⟩).1, fun h => ((hiff _).mpr ⟨h, rfl⟩).1⟩,
    fun h => ((hiff _).mpr ⟨h, rfl⟩).2⟩

def forked : Net RefOperator := netOf "forked" [.relu "x" "a", .copy "x" "b", .add "a" "b" "c"]

def swapped : Net RefOperator := netOf "swapped" [.copy "x" "b", .relu "x" "a", .add "a" "b" "c"]

theorem run_reordered_swapped :
    let order : Equiv.Perm (Fin 3) := Equiv.swap 0 1
    let ws := Workspace.feed .empty "x" ⟨⟨[2]⟩, [1, -1]⟩
    (∀ k : Fin 3, (swapped.operators[k]).op = (forked.operators[order k]).op) ∧
      (∀ i j : Fin 3, i < j → Dependent swapped.operators[i].op swapped.operators[j].op → order i < order j) ∧
      (swapped.run ws).outcome = .ok () ∧ (swapped.run ws).world = (forked.run ws).world := by
  intro order ws
  have same : ∀ k : Fin 3, (swapped.operators[k]).op = (forked.operators[order k]).op := by decide
  have kept : ∀ i j : Fin 3, i < j → Dependent swapped.operators[i].op swapped.operators[j].op → order i < order j := by
    decide
  have hrun : (forked.run ws).outcome = .ok () := by
    rw [Net.run_outcome]
    rfl
  obtain ⟨hiff, hworld⟩ := run_reordered forked swapped order same kept ws
  exact ⟨same, kept, hiff.mpr hrun, hworld hrun⟩

end Reference

end Dataflow
