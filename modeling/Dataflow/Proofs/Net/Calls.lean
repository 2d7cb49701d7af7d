/-
Calls of `run` in a row. `Net.call` is the call number `t`, whatever came of
the calls before it; `Net.runTimes`, which stops at the first call that fails,
leaves what that call leaves (`runTimes_of_error`), and what the last one
leaves when none fails (`runTimes_of_ok`).
-/
import Dataflow.Proofs.Net.Pass

namespace Dataflow.Net

variable {Op World : Type} [Operator Op World]

/-- The net and its world after some calls of `run` in a row, whatever comes of them. -/
def afterCalls (net : Net Op) (world : World) : Nat → Net Op × World
  | 0 => (net, world)
  | t + 1 =>
    let before := net.afterCalls world t
    let call := before.1.run before.2
    (call.net, call.world)

/-- The call number `t`, counted from zero, of calls of `run` in a row. -/
def call (net : Net Op) (world : World) (t : Nat) : After Op World Unit :=
  (net.afterCalls world t).1.run (net.afterCalls world t).2

theorem afterCalls_succ (net : Net Op) (world : World) (t : Nat) :
    net.afterCalls world (t + 1) = ((net.call world t).net, (net.call world t).world) := rfl

theorem afterCalls_succ' (net : Net Op) (world : World) (t : Nat) :
    net.afterCalls world (t + 1) = (net.run world).net.afterCalls (net.run world).world t := by
  induction t with
  | zero => rfl
  | succ t ih =>
    rw [afterCalls_succ, call, ih]
    rfl

theorem call_zero (net : Net Op) (world : World) : net.call world 0 = net.run world := rfl

theorem call_succ (net : Net Op) (world : World) (t : Nat) :
    net.call world (t + 1) = (net.run world).net.call (net.run world).world t := by
  simp only [call, net.afterCalls_succ' world t]

theorem afterCalls_add (net : Net Op) (world : World) (t u : Nat) :
    net.afterCalls world (t + u) = (net.afterCalls world t).1.afterCalls (net.afterCalls world t).2 u := by
  induction u with
  | zero => rfl
  | succ u ih =>
    rw [← Nat.add_assoc, afterCalls_succ, afterCalls_succ, call, call, ih]

theorem call_add (net : Net Op) (world : World) (t u : Nat) :
    net.call world (t + u) = (net.afterCalls world t).1.call (net.afterCalls world t).2 u := by
  rw [call, call, net.afterCalls_add world t u]

theorem afterCalls_origins (net : Net Op) (world : World) (t : Nat) :
    (net.afterCalls world t).1.operators.map NetOperator.origin = net.operators.map NetOperator.origin := by
  induction t with
  | zero => rfl
  | succ t ih => rw [afterCalls_succ, call, run_operators, pass_origins, ih]

/-- The error of a call is that of one of the operators of the net, with its position, name and
type. -/
theorem call_error {net : Net Op} {world : World} {t : Nat} {e : NetError}
    (h : (net.call world t).outcome = .error e) :
    ∃ p, ∃ hp : p < net.operators.length, ∃ cause, e = net.operators[p].failed p cause := by
  obtain ⟨p, hp, cause, he⟩ := run_error h
  have horigins := net.afterCalls_origins world t
  have hlength : (net.afterCalls world t).1.operators.length = net.operators.length := by
    simpa using congrArg List.length horigins
  have hp' : p < net.operators.length := hlength ▸ hp
  refine ⟨p, hp', cause, ?_⟩
  have horigin : (net.afterCalls world t).1.operators[p].origin = net.operators[p].origin := by
    simpa [List.getElem?_eq_getElem, hp, hp'] using congrArg (·[p]?) horigins
  rw [he, NetOperator.failed, NetOperator.failed, NetOperator.spec, NetOperator.spec, horigin]

/-! ## Runs that stop at the first failure -/

theorem runTimes_succ_of_error {net : Net Op} {world : World} {e : NetError}
    (h : (net.run world).outcome = .error e) (count : Nat) :
    net.runTimes world (count + 1) = (net.run world, 0) := by
  simp only [runTimes, h]

theorem runTimes_succ_of_ok {net : Net Op} {world : World} (h : (net.run world).outcome = .ok ()) (count : Nat) :
    net.runTimes world (count + 1) =
      ({ ((net.run world).net.runTimes (net.run world).world count).1 with
          events := (net.run world).events ++
            ((net.run world).net.runTimes (net.run world).world count).1.events },
        ((net.run world).net.runTimes (net.run world).world count).2 + 1) := by
  simp only [runTimes, h]

/-- When no call fails, runs in a row leave what the last call leaves. -/
theorem runTimes_of_ok {count : Nat} {net : Net Op} {world : World}
    (h : ∀ t < count, (net.call world t).outcome = .ok ()) :
    (net.runTimes world count).2 = count ∧ (net.runTimes world count).1.outcome = .ok () ∧
      (net.runTimes world count).1.net = (net.afterCalls world count).1 ∧
      (net.runTimes world count).1.world = (net.afterCalls world count).2 := by
  induction count generalizing net world with
  | zero => exact ⟨rfl, rfl, rfl, rfl⟩
  | succ count ih =>
    have h0 : (net.run world).outcome = .ok () := h 0 (by omega)
    have later : ∀ t < count, ((net.run world).net.call (net.run world).world t).outcome = .ok () := by
      intro t ht
      rw [← call_succ]
      exact h (t + 1) (by omega)
    obtain ⟨hcount, hok, hnet, hworld⟩ := ih later
    rw [runTimes_succ_of_ok h0, net.afterCalls_succ' world count]
    exact ⟨by simp [hcount], hok, hnet, hworld⟩

/-- When the call number `t` is the first to fail, runs in a row stop behind it. -/
theorem runTimes_of_error : ∀ {count : Nat} {net : Net Op} {world : World} {t : Nat} {e : NetError},
    t < count → (∀ u < t, (net.call world u).outcome = .ok ()) → (net.call world t).outcome = .error e →
      (net.runTimes world count).2 = t ∧ (net.runTimes world count).1.outcome = .error e ∧
        (net.runTimes world count).1.net = (net.call world t).net ∧
        (net.runTimes world count).1.world = (net.call world t).world
  | 0, _, _, _, _, ht, _, _ => by omega
  | count + 1, net, world, 0, e, _, _, he => by
    rw [call_zero] at he ⊢
    rw [runTimes_succ_of_error he]
    exact ⟨rfl, he, rfl, rfl⟩
  | count + 1, net, world, t + 1, e, ht, hok, he => by
    have h0 : (net.run world).outcome = .ok () := hok 0 (by omega)
    rw [call_succ] at he ⊢
    have before : ∀ u < t, ((net.run world).net.call (net.run world).world u).outcome = .ok () := by
      intro u hu
      rw [← call_succ]
      exact hok (u + 1) (by omega)
    obtain ⟨hcount, herr, hnet, hworld⟩ := runTimes_of_error (show t < count by omega) before he
    rw [runTimes_succ_of_ok h0]
    exact ⟨by simp [hcount], herr, hnet, hworld⟩

theorem calls_cases (net : Net Op) (world : World) (count : Nat) :
    (∀ t < count, (net.call world t).outcome = .ok ()) ∨
      ∃ t < count, (∀ u < t, (net.call world u).outcome = .ok ()) ∧ ∃ e, (net.call world t).outcome = .error e := by
  induction count with
  | zero => exact .inl fun _ ht => absurd ht (Nat.not_lt_zero _)
  | succ count ih =>
    rcases ih with hok | ⟨t, ht, before, e, he⟩
    · cases hlast : (net.call world count).outcome with
      | ok _ =>
        refine .inl fun t ht => ?_
        by_cases h : t = count
        · rw [h, hlast]
        · exact hok t (by omega)
      | error e => exact .inr ⟨count, by omega, hok, e, hlast⟩
    · exact .inr ⟨t, by omega, before, e, he⟩

theorem runTimes_count_lt {net : Net Op} {world : World} {count : Nat} {e : NetError}
    (h : (net.runTimes world count).1.outcome = .error e) : (net.runTimes world count).2 < count := by
  rcases net.calls_cases world count with hok | ⟨t, ht, before, e', he'⟩
  · rw [(runTimes_of_ok hok).2.1] at h
    cases h
  · rw [(runTimes_of_error ht before he').1]
    exact ht

/-- Runs in a row succeed exactly when no call fails. -/
theorem runTimes_ok_iff {net : Net Op} {world : World} {count : Nat} :
    (net.runTimes world count).1.outcome = .ok () ↔ ∀ t < count, (net.call world t).outcome = .ok () := by
  refine ⟨fun h => ?_, fun h => (runTimes_of_ok h).2.1⟩
  rcases net.calls_cases world count with hok | ⟨t, ht, before, e, he⟩
  · exact hok
  · rw [(runTimes_of_error ht before he).2.1] at h
    cases h

/-- More runs in a row: some of them, and when those succeed the others. -/
theorem runTimes_add (net : Net Op) (world : World) (count more : Nat) :
    net.runTimes world (count + more) =
      match (net.runTimes world count).1.outcome with
      | .error _ => net.runTimes world count
      | .ok () =>
        let first := (net.runTimes world count).1
        let later := first.net.runTimes first.world more
        ({ later.1 with events := first.events ++ later.1.events }, count + later.2) := by
  induction count generalizing net world with
  | zero => simp [runTimes]
  | succ count ih =>
    rw [Nat.add_right_comm count 1 more]
    cases h : (net.run world).outcome with
    | error e => simp only [runTimes_succ_of_error h, h]
    | ok _ =>
      rw [runTimes_succ_of_ok h, runTimes_succ_of_ok h, ih]
      cases hf : ((net.run world).net.runTimes (net.run world).world count).1.outcome with
      | error e => rfl
      | ok _ => simp [List.append_assoc, Nat.add_right_comm]

end Dataflow.Net
