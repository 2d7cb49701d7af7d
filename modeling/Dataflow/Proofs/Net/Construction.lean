/-
The building of a net is all or nothing. Every operator is described by its
entry in the net, on its own device or else on that of the net
(`NetSpec.resolves`). A factory is called on these descriptions one after the
other; the first one that it rejects ends the building, and otherwise the net
has the operators that it has made (`makeOperators_of_made`,
`makeOperators_of_rejected`). The factory of the reference operators looks at
types and at numbers of names only (`Reference.ofSpec_isOk_iff`).
-/
import Dataflow.Proofs.Net.Building
import Dataflow.Proofs.Operator.Description
import Mathlib.Data.List.Basic

namespace Dataflow

variable {Op σ : Type}

/-! ## Descriptions -/

namespace NetSpec

/-- The net whose entries are the descriptions that the operators of a net are made from. -/
def resolvedNet (spec : NetSpec) : NetSpec := { spec with ops := spec.resolvedOperators.map ResolvedSpec.spec }

/-- What it means that the operators of a net are made from its entries, each on its own device or else on
that of the net. -/
structure Resolves (spec : NetSpec) : Prop where
  length : spec.resolvedOperators.length = spec.ops.length
  /-- A description differs from its entry in the device alone, which is that of the net when the entry has
  none. -/
  described : ∀ i : Fin spec.ops.length, spec.resolvedOperators[(i : Nat)]?.map ResolvedSpec.spec =
    some { spec.ops.get i with deviceOption := (spec.ops.get i).deviceOption <|> spec.deviceOption }
  shared : ∀ i : Fin spec.ops.length, spec.resolvedOperators[(i : Nat)]? = some (.entry spec i) ↔
    (spec.ops.get i).deviceOption.isSome ∨ spec.deviceOption = none
  copied : ∀ (i : Fin spec.ops.length) (r : ResolvedSpec), spec.resolvedOperators[(i : Nat)]? = some r →
    (r.isShared = true ↔ (spec.ops.get i).deviceOption.isSome ∨ spec.deviceOption = none)
  /-- The net of these descriptions is resolved to the same ones, which are its entries. -/
  again : spec.resolvedNet.resolvedOperators.map ResolvedSpec.spec = spec.resolvedOperators.map ResolvedSpec.spec ∧
    ∀ r ∈ spec.resolvedNet.resolvedOperators, r.isShared = true

variable (spec : NetSpec)

theorem resolvedOperators_getElem? (i : Fin spec.ops.length) :
    spec.resolvedOperators[(i : Nat)]? = some (spec.resolve i) := by
  simp [resolvedOperators]

theorem map_spec_resolvedOperators :
    spec.resolvedOperators.map ResolvedSpec.spec = List.ofFn spec.resolvedSpec := by
  rw [resolvedOperators, List.map_ofFn]
  exact congrArg List.ofFn (funext spec.resolve_spec)

/-- An operator whose entry has a device, or whose net has none, is made from the entry. -/
theorem resolve_of_kept {i : Fin spec.ops.length}
    (h : (spec.ops.get i).deviceOption.isSome ∨ spec.deviceOption = none) : spec.resolve i = .entry spec i := by
  unfold resolve
  split
  next device hown hnet =>
    rw [List.get_eq_getElem, ← Fin.getElem_fin, hown, hnet] at h
    simp at h
  next => rfl

/-- An operator without a device, in a net that has one, is made from a copy. -/
theorem resolve_of_inherited {i : Fin spec.ops.length}
    (h : ¬ ((spec.ops.get i).deviceOption.isSome ∨ spec.deviceOption = none)) :
    spec.resolve i = .copy (spec.resolvedSpec i) := by
  obtain ⟨hown, hnet⟩ := not_or.mp h
  obtain ⟨device, hdevice⟩ := Option.ne_none_iff_exists'.mp hnet
  have hnone : spec.ops[i].deviceOption = none := by simpa using hown
  simp only [resolve, resolvedSpec, hnone, hdevice, List.get_eq_getElem, ← Fin.getElem_fin]
  rfl

theorem resolve_isShared_iff (i : Fin spec.ops.length) :
    (spec.resolve i).isShared = true ↔ (spec.ops.get i).deviceOption.isSome ∨ spec.deviceOption = none := by
  by_cases h : (spec.ops.get i).deviceOption.isSome ∨ spec.deviceOption = none
  · rw [spec.resolve_of_kept h]
    exact iff_of_true rfl h
  · rw [spec.resolve_of_inherited h]
    exact iff_of_false Bool.false_ne_true h

theorem resolvedNet_kept (i : Fin spec.resolvedNet.ops.length) :
    (spec.resolvedNet.ops.get i).deviceOption.isSome ∨ spec.resolvedNet.deviceOption = none := by
  have hops : spec.resolvedNet.ops = List.ofFn spec.resolvedSpec := spec.map_spec_resolvedOperators
  have hmem : spec.resolvedNet.ops.get i ∈ List.ofFn spec.resolvedSpec := hops ▸ List.get_mem _ i
  obtain ⟨k, hk⟩ := List.mem_ofFn.mp hmem
  rw [← hk]
  change ((spec.ops.get k).deviceOption <|> spec.deviceOption).isSome ∨ spec.deviceOption = none
  cases (spec.ops.get k).deviceOption <;> cases spec.deviceOption <;> simp

theorem resolves : spec.Resolves where
  length := by simp [resolvedOperators]
  described i := by
    rw [spec.resolvedOperators_getElem? i, Option.map_some, spec.resolve_spec]
    rfl
  shared i := by
    rw [spec.resolvedOperators_getElem? i, Option.some_inj, ← spec.resolve_isShared_iff i]
    refine ⟨fun h => by rw [h]; rfl, fun h => spec.resolve_of_kept ?_⟩
    exact (spec.resolve_isShared_iff i).mp h
  copied i r hr := by
    obtain rfl : spec.resolve i = r := by
      rw [spec.resolvedOperators_getElem? i] at hr
      exact Option.some.inj hr
    exact spec.resolve_isShared_iff i
  again := by
    refine ⟨?_, fun r hr => ?_⟩
    · refine List.ext_getElem? fun i => ?_
      by_cases hi : i < spec.resolvedNet.ops.length
      · rw [List.getElem?_map, spec.resolvedNet.resolvedOperators_getElem? ⟨i, hi⟩,
          spec.resolvedNet.resolve_of_kept (spec.resolvedNet_kept ⟨i, hi⟩)]
        exact (List.getElem?_eq_getElem hi).symm
      · have hbehind : spec.resolvedNet.ops.length ≤ i := Nat.le_of_not_lt hi
        rw [List.getElem?_eq_none (by simpa [resolvedOperators] using hbehind)]
        exact (List.getElem?_eq_none hbehind).symm
    · obtain ⟨i, rfl⟩ := List.mem_ofFn.mp hr
      exact (spec.resolvedNet.resolve_isShared_iff i).mpr (spec.resolvedNet_kept i)

end NetSpec

/-! ## Calls of a factory -/

namespace Factory

/-- The state of a factory behind some calls, each on a description and a position. -/
def stateAfter (factory : Factory Op σ) (calls : List (OperatorSpec × Nat)) (state : σ) : σ :=
  calls.foldl (fun state call => (factory call.1 call.2 state).state) state

/-- What comes of one of some calls in a row, none when there are not as many. -/
def outcomeAt (factory : Factory Op σ) (calls : List (OperatorSpec × Nat)) (state : σ) (i : Nat) :
    Option (Except Failure Op) :=
  calls[i]?.map fun call => (factory call.1 call.2 (factory.stateAfter (calls.take i) state)).outcome

def MakesAll (factory : Factory Op σ) (calls : List (OperatorSpec × Nat)) (state : σ) : Prop :=
  ∀ i < calls.length, ∃ op, factory.outcomeAt calls state i = some (.ok op)

/-- One call is rejected for a reason, and none before it is. -/
structure FirstRejected (factory : Factory Op σ) (calls : List (OperatorSpec × Nat)) (state : σ) (p : Nat)
    (cause : Failure) : Prop where
  before : ∀ i < p, ∃ op, factory.outcomeAt calls state i = some (.ok op)
  here : factory.outcomeAt calls state p = some (.error cause)

/-- A factory that also keeps a list of its calls. -/
def recorded (factory : Factory Op σ) : Factory Op (σ × List (OperatorSpec × Nat)) :=
  fun spec position state =>
    let made := factory spec position state.1
    { outcome := made.outcome, state := (made.state, state.2 ++ [(spec, position)]), events := made.events }

variable {factory : Factory Op σ} {call : OperatorSpec × Nat} {calls : List (OperatorSpec × Nat)} {state : σ}

theorem stateAfter_recorded (factory : Factory Op σ) (calls : List (OperatorSpec × Nat)) (state : σ)
    (noted : List (OperatorSpec × Nat)) :
    factory.recorded.stateAfter calls (state, noted) = (factory.stateAfter calls state, noted ++ calls) := by
  induction calls generalizing state noted with
  | nil => simp [stateAfter]
  | cons call calls ih =>
    refine (ih (factory call.1 call.2 state).state (noted ++ [call])).trans ?_
    rw [List.append_assoc]
    rfl

theorem outcomeAt_recorded (factory : Factory Op σ) (calls : List (OperatorSpec × Nat)) (state : σ)
    (noted : List (OperatorSpec × Nat)) (i : Nat) :
    factory.recorded.outcomeAt calls (state, noted) i = factory.outcomeAt calls state i := by
  simp only [outcomeAt, stateAfter_recorded]
  rfl

theorem MakesAll.tail (h : factory.MakesAll (call :: calls) state) :
    factory.MakesAll calls (factory call.1 call.2 state).state :=
  fun i hi => h (i + 1) (Nat.succ_lt_succ hi)

theorem MakesAll.head (h : factory.MakesAll (call :: calls) state) :
    ∃ op, (factory call.1 call.2 state).outcome = .ok op := by
  obtain ⟨op, hop⟩ := h 0 (Nat.zero_lt_succ _)
  exact ⟨op, Option.some.inj hop⟩

theorem FirstRejected.tail {p : Nat} {cause : Failure} (h : factory.FirstRejected (call :: calls) state (p + 1) cause) :
    factory.FirstRejected calls (factory call.1 call.2 state).state p cause :=
  ⟨fun i hi => h.before (i + 1) (Nat.succ_lt_succ hi), h.here⟩

theorem FirstRejected.head {p : Nat} {cause : Failure} (h : factory.FirstRejected (call :: calls) state (p + 1) cause) :
    ∃ op, (factory call.1 call.2 state).outcome = .ok op := by
  obtain ⟨op, hop⟩ := h.before 0 (Nat.zero_lt_succ p)
  exact ⟨op, Option.some.inj hop⟩

theorem makesAll_or_firstRejected (factory : Factory Op σ) (calls : List (OperatorSpec × Nat)) (state : σ) :
    factory.MakesAll calls state ∨ ∃ p cause, factory.FirstRejected calls state p cause := by
  induction calls generalizing state with
  | nil => exact .inl fun i hi => absurd hi (Nat.not_lt_zero i)
  | cons call calls ih =>
    cases hcall : (factory call.1 call.2 state).outcome with
    | error cause => exact .inr ⟨0, cause, fun i hi => absurd hi (Nat.not_lt_zero i), congrArg some hcall⟩
    | ok op =>
      have hfirst : factory.outcomeAt (call :: calls) state 0 = some (.ok op) := congrArg some hcall
      rcases ih (factory call.1 call.2 state).state with hall | ⟨p, cause, hp⟩
      · refine .inl fun i hi => ?_
        cases i with
        | zero => exact ⟨op, hfirst⟩
        | succ i => exact hall i (Nat.lt_of_succ_lt_succ hi)
      · refine .inr ⟨p + 1, cause, fun i hi => ?_, hp.here⟩
        cases i with
        | zero => exact ⟨op, hfirst⟩
        | succ i => exact hp.before i (Nat.lt_of_succ_lt_succ hi)

end Factory

/-! ## Operators in a row -/

/-- The calls of a factory that is to make some operators, the first of them at a position. -/
def callsFrom (position : Nat) (origins : List ResolvedSpec) : List (OperatorSpec × Nat) :=
  (origins.map ResolvedSpec.spec).zipIdx position

theorem callsFrom_cons (position : Nat) (origin : ResolvedSpec) (rest : List ResolvedSpec) :
    callsFrom position (origin :: rest) = (origin.spec, position) :: callsFrom (position + 1) rest := by
  rw [callsFrom, List.map_cons, List.zipIdx_cons, callsFrom]

theorem makeOperators_of_made {factory : Factory Op σ} {origins : List ResolvedSpec} {position : Nat} {state : σ}
    (h : factory.MakesAll (callsFrom position origins) state) :
    ∃ ops, (makeOperators factory position origins state).1 = .ok ops ∧
      (makeOperators factory position origins state).2.1 = factory.stateAfter (callsFrom position origins) state ∧
      ops.length = origins.length ∧
      ∀ (i : Nat) (o : NetOperator Op), ops[i]? = some o →
        factory.outcomeAt (callsFrom position origins) state i = some (.ok o.op) := by
  induction origins generalizing position state with
  | nil => exact ⟨[], rfl, rfl, rfl, by simp⟩
  | cons origin rest ih =>
    rw [callsFrom_cons] at h ⊢
    obtain ⟨op, hop⟩ := h.head
    obtain ⟨ops, hmade, hstate, hlength, hops⟩ := ih h.tail
    refine ⟨⟨origin, op⟩ :: ops, ?_, ?_, congrArg (· + 1) hlength, fun i o ho => ?_⟩
    · simp only [makeOperators, hop, hmade]
      rfl
    · simp only [makeOperators, hop]
      exact hstate
    · cases i with
      | zero => cases ho; exact congrArg some hop
      | succ i => exact hops i o ho

/-- **The first call that is rejected ends the making**: its reason is that of the error, and no call
comes behind it. -/
theorem makeOperators_of_rejected {factory : Factory Op σ} {origins : List ResolvedSpec} {position : Nat}
    {state : σ} {p : Nat} {cause : Failure} (h : factory.FirstRejected (callsFrom position origins) state p cause) :
    ∃ origin, origins[p]? = some origin ∧
      (makeOperators factory position origins state).1 =
        .error (.operatorCreation (position + p) origin.spec.opType cause) ∧
      (makeOperators factory position origins state).2.1 =
        factory.stateAfter ((callsFrom position origins).take (p + 1)) state := by
  induction origins generalizing position state p with
  | nil => cases h.here
  | cons origin rest ih =>
    rw [callsFrom_cons] at h ⊢
    cases p with
    | zero =>
      have hcause : (factory origin.spec position state).outcome = .error cause := Option.some.inj h.here
      refine ⟨origin, rfl, ?_, ?_⟩ <;> simp only [makeOperators, hcause] <;> rfl
    | succ p =>
      obtain ⟨op, hop⟩ := h.head
      obtain ⟨other, hother, herror, hstate⟩ := ih h.tail
      refine ⟨other, hother, ?_, ?_⟩
      · simp only [makeOperators, hop, herror, Nat.add_right_comm position 1 p]
        rfl
      · simp only [makeOperators, hop]
        exact hstate

/-! ## Building -/

namespace NetSpec

variable (spec : NetSpec)

def calls : List (OperatorSpec × Nat) := (List.ofFn spec.resolvedSpec).zipIdx

theorem callsFrom_resolvedOperators : callsFrom 0 spec.resolvedOperators = spec.calls := by
  rw [callsFrom, spec.map_spec_resolvedOperators, calls]

theorem length_calls : spec.calls.length = spec.ops.length := by
  rw [calls, List.length_zipIdx, List.length_ofFn]

/-- The building of a net calls a factory exactly so, and in this order: a factory that keeps a list of its
calls has them in this list. -/
structure CallsExactly (factory : Factory Op σ) (state : σ) (made : List (OperatorSpec × Nat)) : Prop where
  left : (Net.build spec factory state).state = factory.stateAfter made state
  recorded : (Net.build spec factory.recorded (state, [])).state = (factory.stateAfter made state, made)

/-- What it means that the building of a net is all or nothing. -/
structure BuildsAllOrNothing (factory : Factory Op σ) (state : σ) : Prop where
  decided : factory.MakesAll spec.calls state ∨ ∃ p cause, factory.FirstRejected spec.calls state p cause
  /-- If the factory makes all operators, the net has these operators, in their order, each made from its entry. -/
  made : factory.MakesAll spec.calls state → ∃ ops,
    (Net.build spec factory state).outcome = .ok { name := spec.name, operators := ops } ∧
    ops.map NetOperator.origin = spec.resolvedOperators ∧
    (∀ (i : Nat) (o : NetOperator Op), ops[i]? = some o →
      factory.outcomeAt spec.calls state i = some (.ok o.op)) ∧
    spec.CallsExactly factory state spec.calls
  /-- If the factory rejects one, the error tells its position, its type and the reason, and nothing behind it is
  made. -/
  rejected : ∀ p cause, factory.FirstRejected spec.calls state p cause → ∃ hp : p < spec.ops.length,
    (Net.build spec factory state).outcome = .error (.operatorCreation p (spec.ops.get ⟨p, hp⟩).opType cause) ∧
    spec.CallsExactly factory state (spec.calls.take (p + 1))

theorem build_outcome (factory : Factory Op σ) (state : σ) :
    (Net.build spec factory state).outcome =
      (makeOperators factory 0 spec.resolvedOperators state).1.map fun operators =>
        { name := spec.name, operators } := rfl

theorem build_state_of_made {factory : Factory Op σ} {state : σ} (h : factory.MakesAll spec.calls state) :
    (Net.build spec factory state).state = factory.stateAfter spec.calls state := by
  rw [← spec.callsFrom_resolvedOperators] at h ⊢
  obtain ⟨ops, -, hstate, -⟩ := makeOperators_of_made h
  exact hstate

theorem build_state_of_rejected {factory : Factory Op σ} {state : σ} {p : Nat} {cause : Failure}
    (h : factory.FirstRejected spec.calls state p cause) :
    (Net.build spec factory state).state = factory.stateAfter (spec.calls.take (p + 1)) state := by
  rw [← spec.callsFrom_resolvedOperators] at h ⊢
  obtain ⟨origin, -, -, hstate⟩ := makeOperators_of_rejected h
  exact hstate

theorem callsExactly_of_made {factory : Factory Op σ} {state : σ} (h : factory.MakesAll spec.calls state) :
    spec.CallsExactly factory state spec.calls where
  left := spec.build_state_of_made h
  recorded := by
    have hrecorded : factory.recorded.MakesAll spec.calls (state, []) := by
      intro i hi
      rw [Factory.outcomeAt_recorded]
      exact h i hi
    rw [spec.build_state_of_made hrecorded, Factory.stateAfter_recorded, List.nil_append]

theorem callsExactly_of_rejected {factory : Factory Op σ} {state : σ} {p : Nat} {cause : Failure}
    (h : factory.FirstRejected spec.calls state p cause) :
    spec.CallsExactly factory state (spec.calls.take (p + 1)) where
  left := spec.build_state_of_rejected h
  recorded := by
    have hrecorded : factory.recorded.FirstRejected spec.calls (state, []) p cause := by
      refine ⟨fun i hi => ?_, ?_⟩ <;> rw [Factory.outcomeAt_recorded]
      · exact h.before i hi
      · exact h.here
    rw [spec.build_state_of_rejected hrecorded, Factory.stateAfter_recorded, List.nil_append]

theorem buildsAllOrNothing (factory : Factory Op σ) (state : σ) : spec.BuildsAllOrNothing factory state where
  decided := factory.makesAll_or_firstRejected spec.calls state
  made h := by
    have hcalls := h
    rw [← spec.callsFrom_resolvedOperators] at h
    obtain ⟨ops, hmade, -, -, hops⟩ := makeOperators_of_made h
    refine ⟨ops, ?_, makeOperators_origins hmade, ?_, spec.callsExactly_of_made hcalls⟩
    · rw [spec.build_outcome, hmade]
      rfl
    · rw [spec.callsFrom_resolvedOperators] at hops
      exact hops
  rejected p cause h := by
    have hcalls := h
    rw [← spec.callsFrom_resolvedOperators] at h
    obtain ⟨origin, horigin, herror, -⟩ := makeOperators_of_rejected h
    obtain ⟨hp', -⟩ := List.getElem?_eq_some_iff.mp horigin
    have hp : p < spec.ops.length := by simpa [resolvedOperators] using hp'
    have hspec : origin.spec = spec.resolvedSpec ⟨p, hp⟩ := by
      rw [spec.resolvedOperators_getElem? ⟨p, hp⟩] at horigin
      rw [← Option.some.inj horigin, spec.resolve_spec]
    refine ⟨hp, ?_, spec.callsExactly_of_rejected hcalls⟩
    rw [spec.build_outcome, herror, Nat.zero_add, hspec]
    rfl

end NetSpec

/-! ## Reference operators -/

namespace Reference

def arities : List (String × Nat) := [(fcType, 3), (addType, 2), (reluType, 1), (copyType, 1)]

/-- The type of a description is that of a reference operator, with as many inputs as it takes and one
output. -/
def Accepted (o : OperatorSpec) : Prop := (o.opType, o.inputs.length) ∈ arities ∧ o.outputs.length = 1

/-- An operator can be made exactly from an accepted description. -/
theorem ofSpec_isOk_iff (o : OperatorSpec) : (∃ op, ofSpec o = .ok op) ↔ Accepted o := by
  constructor
  · rintro ⟨op, hop⟩
    obtain ⟨htype, hinputs, houtputs⟩ := ofSpec_eq_ok_iff.mp hop
    rw [Accepted, htype, hinputs, houtputs]
    refine ⟨?_, rfl⟩
    cases op <;> simp [arities, RefOperator.description, RefOperator.reads]
  · rintro ⟨harity, houtputs⟩
    obtain ⟨y, hy⟩ := List.length_eq_one_iff.mp houtputs
    simp only [arities, List.mem_cons, Prod.mk.injEq, List.not_mem_nil, or_false] at harity
    rcases harity with ⟨htype, hlength⟩ | ⟨htype, hlength⟩ | ⟨htype, hlength⟩ | ⟨htype, hlength⟩
    · obtain ⟨x, w, b, hin⟩ := List.length_eq_three.mp hlength
      exact ⟨.fullyConnected x w b y, ofSpec_eq_ok_iff.mpr ⟨htype, hin, hy⟩⟩
    · obtain ⟨l, r, hin⟩ := List.length_eq_two.mp hlength
      exact ⟨.add l r y, ofSpec_eq_ok_iff.mpr ⟨htype, hin, hy⟩⟩
    · obtain ⟨x, hin⟩ := List.length_eq_one_iff.mp hlength
      exact ⟨.relu x y, ofSpec_eq_ok_iff.mpr ⟨htype, hin, hy⟩⟩
    · obtain ⟨x, hin⟩ := List.length_eq_one_iff.mp hlength
      exact ⟨.copy x y, ofSpec_eq_ok_iff.mpr ⟨htype, hin, hy⟩⟩

variable {σ : Type}

theorem stateAfter_factory (calls : List (OperatorSpec × Nat)) (state : σ) :
    Factory.stateAfter factory calls state = state := by
  induction calls with
  | nil => rfl
  | cons call calls ih => exact ih

theorem outcomeAt_factory (calls : List (OperatorSpec × Nat)) (state : σ) (i : Nat) :
    Factory.outcomeAt factory calls state i = calls[i]?.map fun call => ofSpec call.1 := rfl

theorem accepted_resolvedSpec (spec : NetSpec) (i : Fin spec.ops.length) :
    Accepted (spec.resolvedSpec i) ↔ Accepted (spec.ops.get i) := Iff.rfl

theorem makesAll_factory_iff (spec : NetSpec) (state : σ) :
    Factory.MakesAll factory spec.calls state ↔ ∀ o ∈ spec.ops, Accepted o := by
  have hat : ∀ i : Fin spec.ops.length, Factory.outcomeAt factory spec.calls state i =
      some (ofSpec (spec.resolvedSpec i)) := by
    intro i
    rw [outcomeAt_factory, NetSpec.calls]
    simp
  constructor
  · intro h o ho
    obtain ⟨i, rfl⟩ := List.get_of_mem ho
    obtain ⟨op, hop⟩ := h i (spec.length_calls.symm ▸ i.isLt)
    rw [hat i] at hop
    exact (accepted_resolvedSpec spec i).mp ((ofSpec_isOk_iff _).mp ⟨op, Option.some.inj hop⟩)
  · intro h i hi
    have hi' : i < spec.ops.length := spec.length_calls ▸ hi
    obtain ⟨op, hop⟩ := (ofSpec_isOk_iff (spec.resolvedSpec ⟨i, hi'⟩)).mpr
      ((accepted_resolvedSpec spec ⟨i, hi'⟩).mpr (h _ (List.get_mem _ ⟨i, hi'⟩)))
    exact ⟨op, (hat ⟨i, hi'⟩).trans (congrArg some hop)⟩

/-- **A net of reference operators can be built exactly when all its descriptions are accepted.** -/
theorem build_ok_iff (spec : NetSpec) (state : σ) :
    (∃ net, (Net.build spec factory state).outcome = .ok net) ↔ ∀ o ∈ spec.ops, Accepted o := by
  have hbuilds := spec.buildsAllOrNothing factory state
  rw [← makesAll_factory_iff spec state]
  constructor
  · rintro ⟨net, hnet⟩
    rcases hbuilds.decided with hall | ⟨p, cause, hp⟩
    · exact hall
    · obtain ⟨_, herror, -⟩ := hbuilds.rejected p cause hp
      rw [herror] at hnet
      cases hnet
  · intro hall
    obtain ⟨ops, hbuilt, -⟩ := hbuilds.made hall
    exact ⟨_, hbuilt⟩

theorem build_state (spec : NetSpec) (state : σ) : (Net.build spec factory state).state = state := by
  rcases Factory.makesAll_or_firstRejected factory spec.calls state with hall | ⟨p, cause, hp⟩
  · rw [spec.build_state_of_made hall, stateAfter_factory]
  · rw [spec.build_state_of_rejected hp, stateAfter_factory]

end Reference

/-- **The building of a net is all or nothing.** Its operators are made from the entries of its
description, each on its own device or else on that of the net; any factory is called on these
descriptions in order, up to the first that it rejects; and that of the reference operators accepts a
net by the types and numbers of names of its operators, whatever their devices and whatever is in the
workspace, which it leaves as it is. -/
theorem build_all_or_nothing (spec : NetSpec) :
    spec.Resolves ∧
      (∀ (Op σ : Type) (factory : Factory Op σ) (state : σ), spec.BuildsAllOrNothing factory state) ∧
      ∀ ws : Workspace,
        ((∃ net, (Net.build spec Reference.factory ws).outcome = .ok net) ↔ ∀ o ∈ spec.ops, Reference.Accepted o) ∧
          (Net.build spec Reference.factory ws).state = ws :=
  ⟨spec.resolves, fun _ _ factory state => spec.buildsAllOrNothing factory state,
    fun ws => ⟨Reference.build_ok_iff spec ws, Reference.build_state spec ws⟩⟩

-- The factory rejects the second of three operators, and is not called on the third.
example :
    let factory : Factory Nat Nat := fun o position made =>
      { outcome := if o.opType = "Work" then .ok position else .error (.unknownOperator o.opType), state := made + 1 }
    let spec : NetSpec :=
      { name := "net", ops := [{ opType := "Work" }, { opType := "Rest" }, { opType := "Work" }],
        deviceOption := some (.cuda 1) }
    (Net.build spec factory 5).outcome = .error (.operatorCreation 1 "Rest" (.unknownOperator "Rest")) ∧
      (Net.build spec factory 5).state = 7 := ⟨rfl, rfl⟩

end Dataflow
