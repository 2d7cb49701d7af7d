/-
The open ranges of a span profiler. Calls of a profiler are events, and a list
of events alone says which ranges are open behind them: those that were started
and not ended since (`openRanges`). A span profiler knows the same behind any
calls (`Path.tracks`), because its identifiers increase and none is given twice,
so the end of a range never takes out another one.
-/
import Dataflow.Trace.Usage
import Mathlib.Data.List.Induction
import Mathlib.Data.List.Nodup

namespace Dataflow

namespace Event

def isRange : Event → Bool
  | .rangeStart _ | .rangeEnd .. => true
  | _ => false

def started : Event → Option ProfilerRange
  | .rangeStart range => some range
  | _ => none

def ends (id : Nat) : Event → Bool
  | .rangeEnd ended _ => ended == id
  | _ => false

end Event

/-! ## Ranges that are open behind events -/

def startedRanges (events : List Event) : List ProfilerRange := events.filterMap Event.started

def keptOpen (events : List Event) (id : Nat) : Bool := !events.any (·.ends id)

/-- The ranges that were started and not ended since, in the order of their starts. -/
def openRanges : List Event → List ProfilerRange
  | [] => []
  | .rangeStart range :: later =>
    if keptOpen later range.id then range :: openRanges later else openRanges later
  | _ :: later => openRanges later

@[simp] theorem keptOpen_start (range : ProfilerRange) (events : List Event) (id : Nat) :
    keptOpen (.rangeStart range :: events) id = keptOpen events id := rfl

@[simp] theorem keptOpen_end (ended : Nat) (closed : Option ProfilerRange) (events : List Event) (id : Nat) :
    keptOpen (.rangeEnd ended closed :: events) id = (keptOpen events id && ended != id) := by
  simp only [keptOpen, List.any_cons, Event.ends, Bool.not_or, Bool.and_comm]
  rfl

section

variable {event : Event} (h : event.isRange = false) (events : List Event)
include h

theorem keptOpen_other (id : Nat) : keptOpen (event :: events) id = keptOpen events id := by
  cases event <;> first | rfl | cases h

theorem startedRanges_other : startedRanges (event :: events) = startedRanges events := by
  cases event <;> first | rfl | cases h

theorem openRanges_other : openRanges (event :: events) = openRanges events := by
  cases event <;> first | rfl | cases h

end

/-- Of the ranges that were open before, later events leave those open that they do not end. -/
theorem openRanges_append (events later : List Event) :
    openRanges (events ++ later) =
      (openRanges events).filter (fun range => keptOpen later range.id) ++ openRanges later := by
  induction events with
  | nil => rfl
  | cons event events ih =>
    cases event with
    | rangeStart range =>
      have hkept : keptOpen (events ++ later) range.id = (keptOpen events range.id && keptOpen later range.id) := by
        simp only [keptOpen, List.any_append, Bool.not_or]
      cases hearly : keptOpen events range.id <;> cases hlate : keptOpen later range.id <;>
        simp [openRanges, hkept, hearly, hlate, ih]
    | _ => simpa only [List.cons_append, openRanges] using ih

theorem openRanges_sublist (events : List Event) : List.Sublist (openRanges events) (startedRanges events) := by
  fun_induction openRanges events with
  | case1 => exact .slnil
  | case2 range later _ ih => exact ih.cons_cons range
  | case3 range later _ ih => exact ih.cons range
  | case4 event later hother ih =>
    have hnone : event.started = none := by
      cases event <;> first | rfl | exact (hother _ rfl).elim
    rwa [startedRanges, List.filterMap_cons_none hnone]

namespace Profiler

/-! ## Steps of a profiler -/

@[simp] theorem opened_spans (next : Nat) (opened : List ProfilerRange) : (spans next opened).opened = opened := rfl

/-- An event, and what it does to a profiler: only calls of the profiler do anything. -/
inductive Step : Profiler → Event → Profiler → Prop
  | start (p : Profiler) (label : String) (color : Color) :
    Step p (.rangeStart (p.startRange label color).1) (p.startRange label color).2
  | finish (p : Profiler) (id : Nat) : Step p (p.endRange id).1 (p.endRange id).2
  | other {p : Profiler} {event : Event} : event.isRange = false → Step p event p

/-- Events one after the other, and what they do to a profiler. -/
inductive Path : Profiler → List Event → Profiler → Prop
  | nil (p : Profiler) : Path p [] p
  | cons {p q r : Profiler} {event : Event} {events : List Event} :
    Step p event q → Path q events r → Path p (event :: events) r

variable {p q r : Profiler} {event : Event} {events later : List Event}

theorem Step.path (h : Step p event q) : Path p [event] q := .cons h (.nil q)

theorem Path.append (h : Path p events q) (hlater : Path q later r) : Path p (events ++ later) r := by
  induction h with
  | nil => exact hlater
  | cons hstep _ ih => exact .cons hstep (ih hlater)

/-- Numbers of open ranges that the next number of the profiler continues. -/
structure WellNumbered (next : Nat) (opened : List ProfilerRange) : Prop where
  increasing : opened.Pairwise (·.id < ·.id)
  below : ∀ range ∈ opened, range.id < next

variable {next id : Nat} {opened : List ProfilerRange}

theorem WellNumbered.start (h : WellNumbered next opened) (label : String) (color : Color) :
    WellNumbered (next + 1) (opened ++ [⟨next, label, color⟩]) where
  increasing := by
    refine List.pairwise_append.mpr ⟨h.increasing, List.pairwise_singleton .., fun range hrange other hother => ?_⟩
    rw [List.mem_singleton.mp hother]
    exact h.below range hrange
  below range hrange := by
    rcases List.mem_append.mp hrange with hopen | hnew
    · exact Nat.lt_succ_of_lt (h.below range hopen)
    · rw [List.mem_singleton.mp hnew]
      exact Nat.lt_succ_self next

theorem WellNumbered.filter (h : WellNumbered next opened) (keep : ProfilerRange → Bool) :
    WellNumbered next (opened.filter keep) where
  increasing := h.increasing.filter keep
  below range hrange := h.below range (List.mem_filter.mp hrange).1

theorem takeOut_concat (id : Nat) (opened : List ProfilerRange) (range : ProfilerRange) :
    takeOut id (opened ++ [range]) =
      if range.id = id then (some range, opened)
      else ((takeOut id opened).1, (takeOut id opened).2 ++ [range]) := by
  by_cases hid : range.id = id <;> simp [takeOut, hid]

/-- Of ranges with different numbers, the one of the identifier is taken out and the others stay. -/
theorem takeOut_eq (h : opened.Pairwise (·.id < ·.id)) (id : Nat) :
    takeOut id opened = (opened.find? (·.id == id), opened.filter (·.id != id)) := by
  -- From the back, since of several ranges with the identifier the last one would be taken out.
  induction opened using List.reverseRecOn with
  | nil => rfl
  | append_singleton opened range ih =>
    obtain ⟨hopened, -, hbehind⟩ := List.pairwise_append.mp h
    have hless : ∀ other ∈ opened, other.id < range.id := fun other hother => hbehind other hother range (by simp)
    rw [takeOut_concat, ih hopened, List.find?_append, List.filter_append]
    by_cases hid : range.id = id
    · have hall : ∀ other ∈ opened, other.id ≠ id :=
        fun other hother => Nat.ne_of_lt (hid ▸ hless other hother)
      have hfind : opened.find? (·.id == id) = none := by simpa using hall
      have hfilter : opened.filter (·.id != id) = opened := List.filter_eq_self.mpr (by simpa using hall)
      simp [hid, hfind, hfilter]
    · simp [hid]

/-- The end of an identifier closes its range, if this is open, and leaves the others open. -/
theorem finish_spans (h : WellNumbered next opened) (id : Nat) :
    (spans next opened).finish id = (opened.find? (·.id == id), .spans next (opened.filter (·.id != id))) := by
  rw [finish, takeOut_eq h.increasing]

/-- What one event can do to a span profiler. -/
theorem Step.of_spans (h : Step (.spans next opened) event q) (hnumbered : WellNumbered next opened) :
    (∃ label color, event = .rangeStart ⟨next, label, color⟩ ∧
      q = .spans (next + 1) (opened ++ [⟨next, label, color⟩])) ∨
    (∃ id closed, event = .rangeEnd id closed ∧ q = .spans next (opened.filter (·.id != id))) ∨
    (event.isRange = false ∧ q = .spans next opened) := by
  cases h with
  | start label color => exact .inl ⟨label, color, rfl, rfl⟩
  | finish id => exact .inr (.inl ⟨id, _, rfl, by rw [endRange, finish_spans hnumbered]⟩)
  | other hother => exact .inr (.inr ⟨hother, rfl⟩)

/-- What a span profiler with some open ranges has come to behind some events. -/
structure Tracks (next : Nat) (opened : List ProfilerRange) (events : List Event) (q : Profiler) : Prop where
  state : q = .spans (next + (startedRanges events).length)
    (opened.filter (fun range => keptOpen events range.id) ++ openRanges events)
  ids : (startedRanges events).map (·.id) = List.range' next (startedRanges events).length
  numbered : WellNumbered (next + (startedRanges events).length) q.opened

theorem Tracks.init (hnumbered : WellNumbered next opened) : Tracks next opened [] (.spans next opened) where
  state := by
    have hall : opened.filter (fun range => keptOpen [] range.id) = opened := List.filter_eq_self.mpr fun _ _ => rfl
    rw [hall, openRanges, List.append_nil]
    rfl
  ids := rfl
  numbered := hnumbered

/-- **What a span profiler keeps as open is what the events say is open.** -/
theorem Path.tracks (h : Path (.spans next opened) events q) (hnumbered : WellNumbered next opened) :
    Tracks next opened events q := by
  generalize hp : spans next opened = p at h
  induction h generalizing next opened with
  | nil => exact hp ▸ .init hnumbered
  | @cons p p' q event events hstep _ ih =>
    subst hp
    -- What is open at the end was open before or started later, and was not ended later.
    rcases hstep.of_spans hnumbered with ⟨label, color, rfl, rfl⟩ | ⟨id, closed, rfl, rfl⟩ | ⟨hother, rfl⟩
    · obtain ⟨hstate, hids, hlater⟩ := ih (hnumbered.start label color) rfl
      have hcount : next + 1 + (startedRanges events).length =
          next + (startedRanges (.rangeStart ⟨next, label, color⟩ :: events)).length := by
        simp only [startedRanges, List.filterMap_cons, Event.started, List.length_cons]
        omega
      refine ⟨?_, ?_, hcount ▸ hlater⟩
      · rw [hstate, hcount, List.filter_append]
        simp only [keptOpen_start, openRanges, List.filter_cons, List.filter_nil]
        split <;> simp
      · simpa [startedRanges, Event.started, List.range'_succ] using hids
    · obtain ⟨hstate, hids, hlater⟩ := ih (hnumbered.filter _) rfl
      refine ⟨?_, hids, hlater⟩
      rw [hstate, List.filter_filter]
      simp only [keptOpen_end, bne_comm (a := id)]
      rfl
    · obtain ⟨hstate, hids, hlater⟩ := ih hnumbered rfl
      refine ⟨?_, ?_, ?_⟩
      · simp only [hstate, startedRanges_other hother, openRanges_other hother, keptOpen_other hother]
      · rw [startedRanges_other hother, hids]
      · rwa [startedRanges_other hother]

theorem Step.isSpans (h : Step p event q) (hp : p.isSpans) : q.isSpans := by
  cases h with
  | start | finish => cases p <;> first | rfl | cases hp
  | other => exact hp

theorem Path.isSpans (h : Path p events q) (hp : p.isSpans) : q.isSpans := by
  induction h with
  | nil => exact hp
  | cons hstep _ ih => exact ih (hstep.isSpans hp)

theorem collect_of_isSpans (h : p.isSpans) : p.collect = p := by
  cases p with
  | spans => rfl
  | silent | recorder => cases h

theorem opened_startRange (h : p.isSpans) (label : String) (color : Color) :
    (p.startRange label color).2.opened = p.opened ++ [(p.startRange label color).1] := by
  cases p with
  | spans => rfl
  | silent | recorder => cases h

/-! ## A new profiler -/

/-- A new profiler that has come through some events is known from them. -/
theorem Path.of_new (h : Path newSpans events p) :
    p = .spans (startedRanges events).length (openRanges events) ∧
      WellNumbered (startedRanges events).length (openRanges events) := by
  obtain ⟨hstate, -, hnumbered⟩ := h.tracks ⟨.nil, nofun⟩
  rw [Nat.zero_add] at hstate hnumbered
  exact ⟨hstate, by simpa [hstate] using hnumbered⟩

theorem Path.opened_eq (h : Path newSpans events p) : p.opened = openRanges events := by
  rw [h.of_new.1]
  rfl

theorem Path.ids_eq (h : Path newSpans events p) :
    (startedRanges events).map (·.id) = List.range (startedRanges events).length := by
  rw [(h.tracks ⟨.nil, nofun⟩).ids, List.range_eq_range']

theorem Path.ids_increasing (h : Path newSpans events p) :
    ((startedRanges events).map (·.id)).Pairwise (· < ·) := by
  rw [h.ids_eq]
  exact List.pairwise_lt_range

variable {range : ProfilerRange}

theorem Path.eq_of_id (h : Path newSpans events p) (hrange : range ∈ startedRanges events) {other : ProfilerRange}
    (hother : other ∈ p.opened) (hid : other.id = range.id) : other = range := by
  rw [h.opened_eq] at hother
  have hnodup : ((startedRanges events).map (·.id)).Nodup := h.ids_increasing.imp Nat.ne_of_lt
  exact List.inj_on_of_nodup_map hnodup ((openRanges_sublist events).subset hother) hrange hid

/-- The end of a range that was started takes it out of what is open, and nothing else. -/
theorem Path.finish_started (h : Path newSpans events p) (hrange : range ∈ startedRanges events) :
    (p.finish range.id).2.opened = p.opened.filter (· ≠ range) := by
  have hsole : ∀ other ∈ p.opened, (other.id != range.id) = decide (other ≠ range) := by
    intro other hother
    rw [Bool.eq_iff_iff, bne_iff_ne, decide_eq_true_iff, not_iff_not]
    exact ⟨h.eq_of_id hrange hother, congrArg _⟩
  rw [← List.filter_congr hsole]
  obtain ⟨rfl, hnumbered⟩ := h.of_new
  rw [finish_spans hnumbered]
  rfl

theorem Path.finish_unknown (h : Path newSpans events p) (hid : ∀ range ∈ p.opened, range.id ≠ id) :
    p.finish id = (none, p) := by
  obtain ⟨rfl, hnumbered⟩ := h.of_new
  rw [opened_spans] at hid
  have hfind : (openRanges events).find? (·.id == id) = none := List.find?_eq_none.mpr (by simpa using hid)
  have hfilter : (openRanges events).filter (·.id != id) = openRanges events :=
    List.filter_eq_self.mpr (by simpa using hid)
  rw [finish_spans hnumbered, hfind, hfilter]

theorem Path.finish_open (h : Path newSpans events p) (hrange : range ∈ p.opened) :
    (p.finish range.id).1 = some range := by
  have hstarted : range ∈ startedRanges events := (openRanges_sublist events).subset (h.opened_eq ▸ hrange)
  have hfirst : (p.finish range.id).1 = p.opened.find? (·.id == range.id) := by
    obtain ⟨rfl, hnumbered⟩ := h.of_new
    rw [finish_spans hnumbered]
    rfl
  have hsome : (p.opened.find? (·.id == range.id)).isSome :=
    List.find?_isSome.mpr ⟨range, hrange, beq_self_eq_true range.id⟩
  obtain ⟨found, hfound⟩ := Option.isSome_iff_exists.mp hsome
  have hid : found.id = range.id := by simpa using List.find?_some hfound
  rw [hfirst, hfound, h.eq_of_id hstarted (List.mem_of_find?_eq_some hfound) hid]

end Profiler

end Dataflow
