/-
Usage of a span profiler by hand and by guards. A guard comes to a start before
and an end behind what is done inside it, so the replies to any usage, in the
order of time, tell of nothing but calls of the profiler (`useAll_told`). What is
known of calls then holds at every moment of the usage, inside of guards too,
and a guard closes its own range whatever is ended inside (`KeepsOthers`).
-/
import Dataflow.Proofs.Trace.Ranges

namespace Dataflow

/-! ## Replies in the order of time -/

namespace RangeReply

def events : RangeReply → List Event
  | .started _ events _ | .finished events _ | .entered events _ | .left _ events _ => events

def opened : RangeReply → Nat
  | .started _ _ opened | .finished _ opened | .entered _ opened | .left _ _ opened => opened

/-- The identifier that a start gives, whether the start is one of its own or that of a guard. -/
def given : RangeReply → List Nat
  | .started id _ _ => [id]
  | reply => (startedRanges reply.events).map (·.id)

mutual

/-- A reply and the replies inside it, in the order in which they are given. -/
def inOrder : RangeReply → List RangeReply
  | .left inner events opened => allInOrder inner ++ [.left [] events opened]
  | reply => [reply]

def allInOrder : List RangeReply → List RangeReply
  | [] => []
  | reply :: replies => reply.inOrder ++ allInOrder replies

end

theorem allInOrder_append (replies others : List RangeReply) :
    allInOrder (replies ++ others) = allInOrder replies ++ allInOrder others := by
  induction replies with
  | nil => rfl
  | cons reply replies ih => simp only [List.cons_append, allInOrder, ih, List.append_assoc]

end RangeReply

namespace Profiler

variable {p q r : Profiler} {events : List Event}

/-- What a profiler does between replies, told by the replies one after the other. -/
inductive Told : Profiler → List RangeReply → Profiler → Prop
  | nil (p : Profiler) : Told p [] p
  | cons {p q r : Profiler} {reply : RangeReply} {replies : List RangeReply} :
    Path p reply.events q → reply.opened = q.opened.length →
    reply.given = (startedRanges reply.events).map (·.id) → Told q replies r → Told p (reply :: replies) r

variable {replies others : List RangeReply}

theorem Told.append (h : Told p replies q) (hothers : Told q others r) : Told p (replies ++ others) r := by
  induction h with
  | nil => exact hothers
  | cons hpath hopened hgiven _ ih => exact .cons hpath hopened hgiven (ih hothers)

theorem Told.split (h : Told p (replies ++ others) r) : ∃ q, Told p replies q ∧ Told q others r := by
  induction replies generalizing p with
  | nil => exact ⟨p, .nil p, h⟩
  | cons reply replies ih =>
    cases h with
    | cons hpath hopened hgiven hrest =>
      obtain ⟨q, hreplies, hothers⟩ := ih hrest
      exact ⟨q, .cons hpath hopened hgiven hreplies, hothers⟩

theorem Told.path (h : Told p replies q) : Path p (replies.flatMap RangeReply.events) q := by
  induction h with
  | nil => exact .nil _
  | cons hpath _ _ _ ih => exact hpath.append ih

theorem Told.given (h : Told p replies q) :
    replies.flatMap RangeReply.given = (startedRanges (replies.flatMap RangeReply.events)).map (·.id) := by
  induction h with
  | nil => rfl
  | cons _ _ hgiven _ ih =>
    simp only [List.flatMap_cons, hgiven, ih, startedRanges, List.filterMap_append, List.map_append]

/-! ## Uses -/

mutual

theorem use_told (p : Profiler) (h : p.isSpans) (u : RangeUse) :
    Told p (RangeReply.allInOrder (p.use u).1) (p.use u).2 := by
  cases u with
  | start label color =>
    have hstep := Step.start p label color
    have hcollect := collect_of_isSpans (hstep.isSpans h)
    simp only [use, hcollect]
    exact .cons hstep.path rfl rfl (.nil _)
  | finish id =>
    have hstep := Step.finish p id
    have hcollect := collect_of_isSpans (hstep.isSpans h)
    simp only [use, hcollect]
    exact .cons hstep.path rfl rfl (.nil _)
  | guarded enabled label color inner =>
    cases enabled with
    | false =>
      have hinner := useAll_told p h inner
      simp only [use, RangeReply.allInOrder, RangeReply.inOrder, List.append_nil]
      exact .cons (.nil p) rfl rfl (hinner.append (.cons (.nil _) rfl rfl (.nil _)))
    | true =>
      have hstart := Step.start p label color
      have hinner := useAll_told _ (hstart.isSpans h) inner
      -- The end is a call like any other: the range may have been ended inside already.
      have hstop := Step.finish ((p.startRange label color).2.useAll inner).2 (p.startRange label color).1.id
      have hspans := hinner.path.isSpans (hstart.isSpans h)
      simp only [use, collect_of_isSpans (hstart.isSpans h), collect_of_isSpans (hstop.isSpans hspans),
        RangeReply.allInOrder, RangeReply.inOrder, List.append_nil]
      exact .cons hstart.path rfl rfl (hinner.append (.cons hstop.path rfl rfl (.nil _)))

/-- Uses of a span profiler do what their replies tell. -/
theorem useAll_told (p : Profiler) (h : p.isSpans) (uses : List RangeUse) :
    Told p (RangeReply.allInOrder (p.useAll uses).1) (p.useAll uses).2 := by
  cases uses with
  | nil => exact .nil p
  | cons u uses =>
    have hfirst := use_told p h u
    have hrest := useAll_told _ (hfirst.path.isSpans h) uses
    simp only [useAll, RangeReply.allInOrder_append]
    exact hfirst.append hrest

end

/-! ## Any usage of a new profiler -/

/-- What starts, ends and guards do to a span profiler in some state. -/
structure KeepsOthers (p : Profiler) : Prop where
  unknown : ∀ id, (∀ range ∈ p.opened, range.id ≠ id) → p.finish id = (none, p)
  known : ∀ range ∈ p.opened,
    (p.finish range.id).1 = some range ∧ (p.finish range.id).2.opened = p.opened.filter (· ≠ range)
  /-- Behind an enabled guard its own range is closed, whatever was done inside, and the others are as they
  were when the guard was left. -/
  guarded : ∀ label color inner,
    let own := (p.startRange label color).1
    let inside := ((p.startRange label color).2.useAll inner).2
    let outside := (p.use (.guarded true label color inner)).2
    (p.startRange label color).2.opened = p.opened ++ [own] ∧ outside.opened = inside.opened.filter (· ≠ own) ∧
      (own ∉ inside.opened → outside = inside)
  unguarded : ∀ label color inner,
    let guard := p.use (.guarded false label color inner)
    guard.2 = (p.useAll inner).2 ∧
      RangeReply.allInOrder guard.1 =
        .entered [] p.opened.length :: RangeReply.allInOrder (p.useAll inner).1 ++
          [.left [] [] (p.useAll inner).2.opened.length]

theorem Path.keepsOthers (h : Path newSpans events p) : KeepsOthers p where
  unknown _ := h.finish_unknown
  known range hrange :=
    ⟨h.finish_open hrange, h.finish_started ((openRanges_sublist events).subset (h.opened_eq ▸ hrange))⟩
  guarded label color inner := by
    intro own inside outside
    have hspans : p.isSpans := h.isSpans rfl
    have hstart := Step.start p label color
    have hinner := useAll_told _ (hstart.isSpans hspans) inner
    have hinside := (h.append hstart.path).append hinner.path
    have houtside : outside = (inside.finish own.id).2 := by
      simp only [outside, use, collect_of_isSpans (hstart.isSpans hspans)]
      exact collect_of_isSpans ((Step.finish inside own.id).isSpans (hinside.isSpans rfl))
    have hown : own ∈ startedRanges (events ++ [.rangeStart own] ++
        (RangeReply.allInOrder ((p.startRange label color).2.useAll inner).1).flatMap RangeReply.events) := by
      simp [startedRanges, Event.started]
    refine ⟨?_, ?_, ?_⟩
    · exact opened_startRange hspans label color
    · rw [houtside]
      exact hinside.finish_started hown
    · intro hclosed
      rw [houtside, hinside.finish_unknown]
      intro other hother hid
      exact hclosed (hinside.eq_of_id hown hother hid ▸ hother)
  unguarded label color inner := by
    refine ⟨rfl, ?_⟩
    simp [use, RangeReply.allInOrder, RangeReply.inOrder]

/-- What is told while a profiler is used, in the order of time. -/
def repliesTo (p : Profiler) (uses : List RangeUse) : List RangeReply := RangeReply.allInOrder (p.useAll uses).1

/-- What comes of using a new span profiler. -/
structure RangesTracked (uses : List RangeUse) : Prop where
  increasing : ((newSpans.repliesTo uses).flatMap RangeReply.given).Pairwise (· < ·)
  /-- Identifiers are less than the number of starts, so with at most `2 ^ 64` starts they fit 64 bits. -/
  bounded : ∀ id ∈ (newSpans.repliesTo uses).flatMap RangeReply.given,
    id < ((newSpans.repliesTo uses).flatMap RangeReply.given).length
  /-- At every moment, also inside of guards, the open ranges are those that were started and not ended
  since, in the order of their starts. -/
  tracked : ∀ before behind, newSpans.repliesTo uses = before ++ behind →
    ∃ p, newSpans.Told before p ∧ p.Told behind (newSpans.useAll uses).2 ∧
      p.opened = openRanges (before.flatMap RangeReply.events) ∧ p.KeepsOthers
  counted : ∀ before reply behind, newSpans.repliesTo uses = before ++ reply :: behind →
    reply.opened = (openRanges ((before ++ [reply]).flatMap RangeReply.events)).length

/-- **A span profiler keeps exactly the ranges that are open, whatever it is used for.** -/
theorem open_ranges_tracked (uses : List RangeUse) : RangesTracked uses := by
  have htold : Told newSpans (newSpans.repliesTo uses) (newSpans.useAll uses).2 := useAll_told newSpans rfl uses
  refine ⟨?_, ?_, fun before behind hsplit => ?_, fun before reply behind hsplit => ?_⟩
  · rw [htold.given]
    exact htold.path.ids_increasing
  · rw [htold.given, htold.path.ids_eq, List.length_range]
    exact fun id => List.mem_range.mp
  · obtain ⟨p, hbefore, hbehind⟩ := (hsplit ▸ htold).split
    exact ⟨p, hbefore, hbehind, hbefore.path.opened_eq, hbefore.path.keepsOthers⟩
  · rw [List.append_cons] at hsplit
    obtain ⟨p, hbefore, -⟩ := (hsplit ▸ htold).split
    obtain ⟨q, -, hreply⟩ := hbefore.split
    rw [← hbefore.path.opened_eq]
    cases hreply with
    | cons _ hopened _ hnil => cases hnil; exact hopened

-- The guard's own range is ended inside, out of turn, and the range that is started there stays open.
example :
    newSpans.useAll [.start "outer" .run, .guarded true "own" .wait [.finish 1, .start "kept" .run], .finish 7] =
      ([.started 0 [.rangeStart ⟨0, "outer", .run⟩] 1, .entered [.rangeStart ⟨1, "own", .wait⟩] 2,
        .left [.finished [.rangeEnd 1 (some ⟨1, "own", .wait⟩)] 1, .started 2 [.rangeStart ⟨2, "kept", .run⟩] 2]
          [.rangeEnd 1 none] 2,
        .finished [.rangeEnd 7 none] 2],
        .spans 3 [⟨0, "outer", .run⟩, ⟨2, "kept", .run⟩]) := rfl

end Profiler

end Dataflow
