/-
Scripted failures over calls of `run` in a row. An operator fails once it has
succeeded as often as its limit says, and the operators behind one that fails
do not run, so the counts of the operators drift apart. What every call
preserves is that an operator has succeeded as often as there were calls, or as
the least of the limits up to its position says when that is less
(`Played.run`). From this follows which call fails, at which position, and what
it writes into the journal (`calls_closed_form`).
-/
import Mathlib.Data.ENat.Lattice
import Dataflow.Operator.Scripted
import Dataflow.Proofs.Net.Building
import Dataflow.Proofs.Net.Turns

namespace Dataflow.Scripted

variable {script : Script} {spec : NetSpec} {j : Journal}

/-! ## The least of a number and of some limits -/

/-- The least of a number and of the limits up to a position. -/
noncomputable def capped (limits : ℕ → ℕ∞) (t i : ℕ) : ℕ∞ := min t (⨅ k ≤ i, limits k)

theorem capped_zero (limits : ℕ → ℕ∞) (i : ℕ) : capped limits 0 i = 0 := by
  rw [capped, Nat.cast_zero, zero_min]

theorem capped_of_le {limits : ℕ → ℕ∞} {t i : ℕ} (h : ∀ k ≤ i, t ≤ limits k) : capped limits t i = t :=
  min_eq_left (le_iInf₂ h)

theorem capped_of_reached {limits : ℕ → ℕ∞} {t i k : ℕ} (hk : k ≤ i) (h : limits k ≤ t) :
    capped limits t i = ⨅ k ≤ i, limits k :=
  min_eq_right ((iInf₂_le k hk).trans h)

theorem capped_succ_of_lt {limits : ℕ → ℕ∞} {t i : ℕ} (h : ∀ k ≤ i, t < limits k) :
    capped limits (t + 1) i = capped limits t i + 1 := by
  have hsucc : ∀ k ≤ i, ((t + 1 : ℕ) : ℕ∞) ≤ limits k := by
    intro k hk
    rw [Nat.cast_succ]
    exact Order.add_one_le_of_lt (h k hk)
  rw [capped_of_le hsucc, capped_of_le fun k hk => (h k hk).le, Nat.cast_succ]

theorem capped_succ_of_reached {limits : ℕ → ℕ∞} {t i k : ℕ} (hk : k ≤ i) (h : limits k ≤ t) :
    capped limits (t + 1) i = capped limits t i := by
  have hsucc : limits k ≤ (t + 1 : ℕ) := h.trans (Nat.cast_le.mpr (Nat.le_succ t))
  rw [capped_of_reached hk hsucc, capped_of_reached hk h]

theorem le_capped_first {limits : ℕ → ℕ∞} {t p : ℕ} (hp : limits p ≤ t) (before : ∀ k < p, t < limits k) :
    limits p ≤ capped limits t p := by
  refine le_min hp (le_iInf₂ fun k hk => ?_)
  rcases Nat.lt_or_eq_of_le hk with hlt | rfl
  · exact hp.trans (before k hlt).le
  · exact le_rfl

/-! ## Limits of operators -/

/-- The number of successes after which the operator of a description fails, infinite when there is no
limit for its name. -/
def limitOf (script : Script) (o : OperatorSpec) : ℕ∞ :=
  match script.limits.get? o.name with
  | some limit => limit
  | none => ⊤

/-- The limit of the operator at a position, infinite behind the last one. -/
def limitAt (script : Script) (spec : NetSpec) (i : ℕ) : ℕ∞ :=
  match spec.ops[i]? with
  | some o => limitOf script o
  | none => ⊤

/-- The first position whose limit a number has reached, the number of operators when there is none. -/
def failing (script : Script) (spec : NetSpec) (t : ℕ) : ℕ := spec.ops.findIdx fun o => limitOf script o ≤ t

theorem limitAt_getElem {i : ℕ} (hi : i < spec.ops.length) : limitAt script spec i = limitOf script spec.ops[i] := by
  rw [limitAt, List.getElem?_eq_getElem hi]

theorem lt_of_limitAt_le {i t : ℕ} (h : limitAt script spec i ≤ t) : i < spec.ops.length := by
  by_contra hi
  rw [limitAt, List.getElem?_eq_none (Nat.le_of_not_lt hi)] at h
  exact absurd h (not_le.mpr (ENat.natCast_lt_top t))

theorem lt_limitAt_of_lt_failing {i t : ℕ} (h : i < failing script spec t) : t < limitAt script spec i := by
  have hi : i < spec.ops.length := h.trans_le List.findIdx_le_length
  have hnot := List.not_of_lt_findIdx h
  rw [limitAt_getElem hi]
  simpa using hnot

theorem limitAt_failing {t : ℕ} (h : failing script spec t < spec.ops.length) :
    limitAt script spec (failing script spec t) ≤ t := by
  have hreached := List.findIdx_getElem (w := h)
  rw [limitAt_getElem h]
  exact of_decide_eq_true hreached

theorem lt_limitAt_of_failing {t : ℕ} (h : spec.ops.length ≤ failing script spec t) (i : ℕ) :
    t < limitAt script spec i := by
  by_contra hreached
  have hi := lt_of_limitAt_le (not_lt.mp hreached)
  exact hreached (lt_limitAt_of_lt_failing (hi.trans_le h))

theorem failing_isLeast {t : ℕ} (h : failing script spec t < spec.ops.length) :
    IsLeast {i | limitAt script spec i ≤ t} (failing script spec t) := by
  refine ⟨limitAt_failing h, fun i hi => ?_⟩
  by_contra hlt
  exact absurd (lt_limitAt_of_lt_failing (Nat.lt_of_not_le hlt)) (not_lt.mpr hi)

/-! ## Operators that have succeeded so often -/

/-- The operators of a net, each with so many successes behind it. -/
def troupe (script : Script) (spec : NetSpec) (count : ℕ → ℕ) : List (NetOperator Actor) :=
  List.ofFn fun i : Fin spec.ops.length =>
    ⟨spec.resolve i, { actor script (spec.resolve i).spec with successes := count i }⟩

theorem build_troupe {cast : Cast} {net : Net Actor} (h : (Net.build spec (factory script) cast).outcome = .ok net) :
    net.operators = troupe script spec 0 := by
  have horigins : net.operators.map NetOperator.origin = spec.resolvedOperators := Net.build_madeFrom h
  have hactor : ∀ o ∈ net.operators, o = ⟨o.origin, actor script o.origin.spec⟩ := by
    intro o ho
    obtain ⟨position, state, hmade⟩ := Net.build_made h o ho
    unfold factory at hmade
    split at hmade
    · cases hmade
    · rw [show actor script o.origin.spec = o.op from Except.ok.inj hmade]
  calc net.operators = net.operators.map fun o => ⟨o.origin, actor script o.origin.spec⟩ :=
        (List.map_id _).symm.trans (List.map_congr_left hactor)
    _ = (net.operators.map NetOperator.origin).map fun origin => ⟨origin, actor script origin.spec⟩ := by
        rw [List.map_map]
        rfl
    _ = troupe script spec 0 := by
        rw [horigins, NetSpec.resolvedOperators, List.map_ofFn]
        rfl

theorem troupe_length (count : ℕ → ℕ) : (troupe script spec count).length = spec.ops.length := List.length_ofFn

variable {count : ℕ → ℕ}

theorem troupe_getElem {i : ℕ} (hi : i < (troupe script spec count).length) (hi' : i < spec.ops.length) :
    (troupe script spec count)[i] =
      ⟨spec.resolve ⟨i, hi'⟩, { actor script (spec.resolvedSpec ⟨i, hi'⟩) with successes := count i }⟩ := by
  rw [← spec.resolve_spec]
  exact List.getElem_ofFn _

theorem troupe_names (p : ℕ) :
    ((troupe script spec count).take p).map (·.op.name) = (spec.ops.take p).map (·.name) := by
  have hall : (troupe script spec count).map (·.op.name) = spec.ops.map (·.name) := by
    refine List.ext_getElem (by simp [troupe]) fun i hi hi' => ?_
    rw [List.length_map] at hi hi'
    rw [List.getElem_map, List.getElem_map, troupe_getElem hi hi']
    rfl
  rw [List.map_take, hall, List.map_take]

/-! ## Turns -/

theorem isSpent_iff (a : Actor) {o : OperatorSpec} (h : a.limit = script.limits.get? o.name) :
    a.isSpent = true ↔ limitOf script o ≤ a.successes := by
  unfold Actor.isSpent limitOf
  rw [h]
  cases script.limits.get? o.name with
  | some limit => simp
  | none => simp

theorem troupe_isSpent {i : ℕ} (hi : i < (troupe script spec count).length) :
    (troupe script spec count)[i].op.isSpent = true ↔ limitAt script spec i ≤ count i := by
  have hi' : i < spec.ops.length := hi.trans_eq (troupe_length count)
  rw [troupe_getElem hi hi', limitAt_getElem hi']
  exact isSpent_iff _ rfl

theorem run_of_spent {a : Actor} (h : a.isSpent = true) :
    (Operator.run a j).failure = some (.scripted a.name) ∧ (Operator.run a j).op = a := by
  simp [Operator.run, Actor.run, h]

theorem run_of_not_spent {a : Actor} (h : ¬ a.isSpent = true) :
    (Operator.run a j).failure = none ∧ (Operator.run a j).op = { a with successes := a.successes + 1 } := by
  simp [Operator.run, Actor.run, h]

/-- Whether it fails or not, an operator writes its name down. -/
theorem run_entries (a : Actor) : (Operator.run a j).world.entries = j.entries ++ [a.name] := by
  simp only [Operator.run, Actor.run]
  split <;> rfl

theorem worldAt_entries (ops : List (NetOperator Actor)) (p : ℕ) :
    (worldAt ops j p).entries = j.entries ++ (ops.take p).map (·.op.name) := by
  unfold worldAt
  induction ops.take p generalizing j with
  | nil => exact (List.append_nil _).symm
  | cons o rest ih => rw [List.foldl_cons, ih, run_entries, List.append_assoc]; rfl

theorem turn_spent {i : Fin (troupe script spec count).length} (h : limitAt script spec i ≤ count i) :
    (turn (troupe script spec count) j i).failure = some (.scripted ((troupe script spec count).get i).op.name) :=
  (run_of_spent ((troupe_isSpent i.isLt).mpr h)).1

theorem turn_not_spent {i : Fin (troupe script spec count).length} (h : count i < limitAt script spec i) :
    (turn (troupe script spec count) j i).failure = none :=
  (run_of_not_spent (mt (troupe_isSpent i.isLt).mp (not_le.mpr h))).1

theorem afterTurn_spent {i : Fin (troupe script spec count).length} (h : limitAt script spec i ≤ count i) :
    afterTurn (troupe script spec count) j i = (troupe script spec count).get i := by
  have hop := (run_of_spent (j := worldAt (troupe script spec count) j i) ((troupe_isSpent i.isLt).mpr h)).2
  rw [afterTurn, turn, List.get_eq_getElem, hop]

theorem afterTurn_not_spent {i : Fin (troupe script spec count).length} (hi : i < spec.ops.length)
    (h : count i < limitAt script spec i) :
    afterTurn (troupe script spec count) j i =
      ⟨spec.resolve ⟨i, hi⟩, { actor script (spec.resolvedSpec ⟨i, hi⟩) with successes := count i + 1 }⟩ := by
  have hop := (run_of_not_spent (j := worldAt (troupe script spec count) j i)
    (mt (troupe_isSpent i.isLt).mp (not_le.mpr h))).2
  rw [afterTurn, turn, List.get_eq_getElem, hop, troupe_getElem i.isLt hi]

/-! ## One call -/

/-- The operators after some calls: each has succeeded as often as there were calls, or as the least
limit up to its position allows. -/
def Played (script : Script) (spec : NetSpec) (t : ℕ) (ops : List (NetOperator Actor)) : Prop :=
  ∃ count : ℕ → ℕ, (∀ i < spec.ops.length, (count i : ℕ∞) = capped (limitAt script spec) t i) ∧
    ops = troupe script spec count

theorem played_zero : Played script spec 0 (troupe script spec 0) :=
  ⟨0, fun i _ => (capped_zero _ i).symm, rfl⟩

def errorAt (spec : NetSpec) (p : ℕ) (hp : p < spec.ops.length) : NetError :=
  .operatorFailed p spec.ops[p].name spec.ops[p].opType (.scripted spec.ops[p].name)

/-- The names that a call writes down when so many calls were before it: those of the operators up to
the one that fails, or of all. -/
def callNames (script : Script) (spec : NetSpec) (t : ℕ) : List String :=
  (spec.ops.take (failing script spec t + 1)).map (·.name)

/-- The successes after one more call: the operators before the one that fails have one more. -/
def counted (script : Script) (spec : NetSpec) (t : ℕ) (count : ℕ → ℕ) (i : ℕ) : ℕ :=
  if i < failing script spec t then count i + 1 else count i

theorem counted_of_lt {t i : ℕ} (h : i < failing script spec t) : counted script spec t count i = count i + 1 :=
  if_pos h

theorem counted_of_le {t i : ℕ} (h : failing script spec t ≤ i) : counted script spec t count i = count i :=
  if_neg (Nat.not_lt.mpr h)

section Step

variable {t : ℕ} (hcount : ∀ i < spec.ops.length, (count i : ℕ∞) = capped (limitAt script spec) t i)
include hcount

theorem count_lt_limitAt {i : ℕ} (hi : i < spec.ops.length) (h : i < failing script spec t) :
    count i < limitAt script spec i := by
  rw [hcount i hi]
  exact (min_le_left _ _).trans_lt (lt_limitAt_of_lt_failing h)

/-- The operator that fails has reached its limit, as it was never kept from running before. -/
theorem limitAt_le_count (h : failing script spec t < spec.ops.length) :
    limitAt script spec (failing script spec t) ≤ count (failing script spec t) := by
  rw [hcount _ h]
  exact le_capped_first (limitAt_failing h) fun k hk => lt_limitAt_of_lt_failing hk

/-- The counts before the operator that fails go up with the number of calls, and those from it on are
at a limit already. -/
theorem counted_eq_capped {i : ℕ} (hi : i < spec.ops.length) :
    (counted script spec t count i : ℕ∞) = capped (limitAt script spec) (t + 1) i := by
  rcases Nat.lt_or_ge i (failing script spec t) with h | h
  · rw [counted_of_lt h, capped_succ_of_lt fun k hk => lt_limitAt_of_lt_failing (hk.trans_lt h), ← hcount i hi,
      Nat.cast_succ]
  · rw [counted_of_le h, capped_succ_of_reached h (limitAt_failing (h.trans_lt hi)), hcount i hi]

theorem pass_troupe_ran (h : spec.ops.length ≤ failing script spec t) :
    pass 0 (troupe script spec count) j =
      ⟨troupe script spec (counted script spec t count),
        worldAt (troupe script spec count) j spec.ops.length, none⟩ := by
  have hlt : ∀ i < spec.ops.length, count i < limitAt script spec i := fun i hi =>
    count_lt_limitAt hcount hi (hi.trans_le h)
  have hran : AllRan (troupe script spec count) j := fun i =>
    turn_not_spent (hlt i (i.isLt.trans_eq (troupe_length count)))
  have hops : List.ofFn (afterTurn (troupe script spec count) j) =
      troupe script spec (counted script spec t count) := by
    refine List.ext_getElem (by simp [troupe]) fun i _ hi => ?_
    have hi' : i < spec.ops.length := hi.trans_eq (troupe_length _)
    rw [List.getElem_ofFn, troupe_getElem hi hi', counted_of_lt (hi'.trans_le h)]
    exact afterTurn_not_spent hi' (hlt i hi')
  rw [pass_of_ran hran, hops, troupe_length]

theorem pass_troupe_failed (h : failing script spec t < spec.ops.length) :
    pass 0 (troupe script spec count) j =
      ⟨troupe script spec (counted script spec t count),
        worldAt (troupe script spec count) j (failing script spec t + 1),
        some (errorAt spec (failing script spec t) h)⟩ := by
  have hp : failing script spec t < (troupe script spec count).length := h.trans_eq (troupe_length _).symm
  have hspent := limitAt_le_count hcount h
  have hlt : ∀ i < failing script spec t, count i < limitAt script spec i := fun i hi =>
    count_lt_limitAt hcount (hi.trans h) hi
  have hfirst : FirstFailure (troupe script spec count) j ⟨failing script spec t, hp⟩
      (.scripted ((troupe script spec count).get ⟨failing script spec t, hp⟩).op.name) :=
    { before := fun i hi => turn_not_spent (hlt i hi)
      here := turn_spent hspent }
  have hops : (List.ofFn fun i => if i ≤ ⟨failing script spec t, hp⟩ then afterTurn (troupe script spec count) j i
      else (troupe script spec count).get i) = troupe script spec (counted script spec t count) := by
    refine List.ext_getElem (by simp [troupe]) fun i _ hi => ?_
    have hi' : i < spec.ops.length := hi.trans_eq (troupe_length _)
    rw [List.getElem_ofFn, troupe_getElem hi hi']
    rcases Nat.lt_trichotomy i (failing script spec t) with hbefore | rfl | hbehind
    · rw [if_pos (Fin.mk_le_mk.mpr hbefore.le), counted_of_lt hbefore]
      exact afterTurn_not_spent hi' (hlt i hbefore)
    · rw [if_pos (Fin.mk_le_mk.mpr le_rfl), counted_of_le le_rfl, afterTurn_spent hspent, List.get_eq_getElem,
        troupe_getElem hp hi']
    · rw [if_neg (mt Fin.mk_le_mk.mp (Nat.not_le.mpr hbehind)), counted_of_le hbehind.le, List.get_eq_getElem,
        troupe_getElem (hi'.trans_eq (troupe_length _).symm) hi']
  rw [pass_of_failed hfirst, hops, ← worldAt_succ, NetOperator.failed, NetOperator.spec, List.get_eq_getElem,
    troupe_getElem hp h]
  simp [errorAt, NetSpec.resolve_spec, NetSpec.resolvedSpec, actor]

end Step

theorem Played.run_of_ran {t : ℕ} {net : Net Actor} (h : Played script spec t net.operators)
    (hall : spec.ops.length ≤ failing script spec t) :
    (net.run j).outcome = .ok () ∧ Played script spec (t + 1) (net.run j).net.operators ∧
      (net.run j).world.entries = j.entries ++ callNames script spec t := by
  obtain ⟨count, hcount, hops⟩ := h
  have hpass := pass_troupe_ran (j := j) hcount hall
  have hnames : callNames script spec t = spec.ops.map (·.name) := by
    rw [callNames, List.take_of_length_le (hall.trans (Nat.le_succ _))]
  rw [← hops] at hpass
  rw [net.run_outcome, net.run_operators, net.run_world, hpass]
  refine ⟨rfl, ⟨_, fun i => counted_eq_capped hcount, rfl⟩, ?_⟩
  rw [worldAt_entries, hops, troupe_names, List.take_length, hnames]

theorem Played.run_of_failed {t : ℕ} {net : Net Actor} (h : Played script spec t net.operators)
    (hp : failing script spec t < spec.ops.length) :
    (net.run j).outcome = .error (errorAt spec (failing script spec t) hp) ∧
      Played script spec (t + 1) (net.run j).net.operators ∧
      (net.run j).world.entries = j.entries ++ callNames script spec t := by
  obtain ⟨count, hcount, hops⟩ := h
  have hpass := pass_troupe_failed (j := j) hcount hp
  rw [← hops] at hpass
  rw [net.run_outcome, net.run_operators, net.run_world, hpass]
  refine ⟨rfl, ⟨_, fun i => counted_eq_capped hcount, rfl⟩, ?_⟩
  rw [worldAt_entries, hops, troupe_names, callNames]

/-- **A call preserves what the calls before it have led to**, and writes down the names that belong to
its number. -/
theorem Played.run {t : ℕ} {net : Net Actor} (h : Played script spec t net.operators) :
    Played script spec (t + 1) (net.run j).net.operators ∧
      (net.run j).world.entries = j.entries ++ callNames script spec t := by
  rcases Nat.lt_or_ge (failing script spec t) spec.ops.length with hp | hall
  · exact (h.run_of_failed hp).2
  · exact (h.run_of_ran hall).2

/-! ## Calls in a row -/

theorem played_afterCalls {net : Net Actor} (h : net.operators = troupe script spec 0) (T : ℕ) :
    Played script spec T (net.afterCalls j T).1.operators ∧
      (net.afterCalls j T).2.entries = j.entries ++ (List.range T).flatMap (callNames script spec) := by
  induction T with
  | zero => exact ⟨h ▸ played_zero, (List.append_nil _).symm⟩
  | succ T ih =>
    obtain ⟨hplayed, hentries⟩ := ih
    obtain ⟨hplayed', hentries'⟩ := hplayed.run (j := (net.afterCalls j T).2)
    refine ⟨hplayed', ?_⟩
    rw [List.range_succ, List.flatMap_append, ← List.append_assoc, ← hentries, List.flatMap_singleton]
    exact hentries'

/-- The calls of a net of scripted operators in closed form. -/
structure ClosedForm (script : Script) (spec : NetSpec) (net : Net Actor) (j : Journal) : Prop where
  fails : ∀ t : ℕ, (∃ e, (net.call j t).outcome = .error e) ↔ ∃ i, limitAt script spec i ≤ t
  position : ∀ t p : ℕ, IsLeast {i | limitAt script spec i ≤ t} p → ∃ hp : p < spec.ops.length,
    (net.call j t).outcome =
      .error (.operatorFailed p spec.ops[p].name spec.ops[p].opType (.scripted spec.ops[p].name))
  /-- After some calls, an operator has succeeded as often as the least of their number and of the limits
  up to its position. -/
  successes : ∀ T : ℕ, ∀ i < spec.ops.length, ∃ o, (net.afterCalls j T).1.operators[i]? = some o ∧
    (o.op.successes : ℕ∞) = min (T : ℕ∞) (⨅ k ≤ i, limitAt script spec k)
  journal : ∀ T : ℕ, (net.afterCalls j T).2.entries = j.entries ++ (List.range T).flatMap (callNames script spec)

/-- **Repeated runs with scripted failures have a closed form**, whatever observers and configuration the
net has been given since it was built. -/
theorem calls_closed_form (script : Script) (spec : NetSpec) (cast : Cast) (built net : Net Actor) (j : Journal)
    (hbuilt : (Net.build spec (factory script) cast).outcome = .ok built) (hnet : net.operators = built.operators) :
    ClosedForm script spec net j := by
  have hfresh : net.operators = troupe script spec 0 := hnet.trans (build_troupe hbuilt)
  have hplayed := played_afterCalls (j := j) hfresh
  have hfailed : ∀ t hp, (net.call j t).outcome = .error (errorAt spec (failing script spec t) hp) :=
    fun t hp => ((hplayed t).1.run_of_failed hp).1
  refine ⟨fun t => ⟨?_, ?_⟩, fun t p hp => ?_, fun T i hi => ?_, fun T => (hplayed T).2⟩
  · rintro ⟨e, he⟩
    rcases Nat.lt_or_ge (failing script spec t) spec.ops.length with h | h
    · exact ⟨_, limitAt_failing h⟩
    · rw [Net.call, ((hplayed t).1.run_of_ran h).1] at he
      cases he
  · rintro ⟨i, hi⟩
    rcases Nat.lt_or_ge (failing script spec t) spec.ops.length with h | h
    · exact ⟨_, hfailed t h⟩
    · exact absurd hi (not_le.mpr (lt_limitAt_of_failing h i))
  · have h : failing script spec t < spec.ops.length := by
      by_contra hall
      exact absurd hp.1 (not_le.mpr (lt_limitAt_of_failing (not_lt.mp hall) p))
    obtain rfl : failing script spec t = p := (failing_isLeast h).unique hp
    exact ⟨h, hfailed t h⟩
  · obtain ⟨count, hcount, hops⟩ := (hplayed T).1
    have hi' : i < (troupe script spec count).length := hi.trans_eq (troupe_length count).symm
    refine ⟨_, by rw [hops, List.getElem?_eq_getElem hi'], ?_⟩
    rw [troupe_getElem hi' hi]
    exact hcount i hi

/-- Two operators share a name with its limit, and one behind them has a limit that is reached before. -/
theorem calls_closed_form_shared :
    let script : Script := { limits := .ofList [("a", 2), ("c", 1)] }
    let spec := Scripted.net "shared" [("a", "A"), ("b", "B"), ("a", "A"), ("c", "C")]
    ∃ net, (Net.build spec (factory script) {}).outcome = .ok net ∧ ClosedForm script spec net {} ∧
      (net.call {} 0).outcome = .ok () ∧
      (net.call {} 1).outcome = .error (.operatorFailed 3 "c" "C" (.scripted "c")) ∧
      (net.call {} 2).outcome = .error (.operatorFailed 0 "a" "A" (.scripted "a")) ∧
      (net.afterCalls {} 3).1.operators.map (·.op.successes) = [2, 2, 2, 1] ∧
      (net.afterCalls {} 3).2.entries = ["a", "b", "a", "c", "a", "b", "a", "c", "a"] := by
  intro script spec
  refine ⟨_, rfl, calls_closed_form script spec {} _ _ {} rfl rfl, rfl, rfl, rfl, rfl, ?_⟩
  rfl

end Dataflow.Scripted
