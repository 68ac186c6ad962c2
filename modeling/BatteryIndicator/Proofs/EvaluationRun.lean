import BatteryIndicator.Evaluation
import Mathlib.Data.List.Destutter
/-!
# EvaluationRun — evaluations one after the other

Each evaluation may be asked of another theme, direction and level; what is carried from one to the next is the event
that fired last, and the phase of flashing steps.  Two events in a row differ in the charge state as well as in the
minimum (`isChain_events`), and the charge state is that of the evaluation at which the event fired.  So the charge
state has changed at least once between two events (`events_alternate`).
-/
namespace BatteryIndicator
namespace Evaluation

/-- What an evaluation is asked for. -/
structure Call where
  theme : Theme Step
  direction : Direction
  level : Binary64

namespace Call

def outcome (c : Call) (s : State) : Evaluation × State := evaluate c.theme c.direction c.level s

def charging? (c : Call) : Option Bool := c.direction.charging?

end Call

/-- The state after evaluations. -/
def run (calls : List Call) (s : State) : State := calls.foldl (fun s c => (c.outcome s).2) s

/-- Evaluations one after the other, each with what it was asked for. -/
def outcomes : State → List Call → List (Call × Evaluation)
  | _, [] => []
  | s, c :: cs => (c, (c.outcome s).1) :: outcomes (c.outcome s).2 cs

/-- The charge state of an evaluation and the minimum of its step, if an event fired. -/
def event? (o : Call × Evaluation) : Option (Option Bool × Binary64) :=
  o.2.event.bind fun _ => o.2.step.map fun step => (o.1.charging?, step.minimum)

/-- The events that fire. -/
def events (s : State) (calls : List Call) : List (Option Bool × Binary64) := (outcomes s calls).filterMap event?

/-- Two events differ in the charge state, and in the minimum as numbers. -/
def Differ (e e' : Option Bool × Binary64) : Prop := e.1 ≠ e'.1 ∧ e.2.equal e'.2 = false

instance (e e' : Option Bool × Binary64) : Decidable (Differ e e') := inferInstanceAs (Decidable (_ ∧ _))

/-- How often the charge state changes from one evaluation to the next. -/
def turns (calls : List Call) : Nat :=
  (calls.zip calls.tail).countP fun p => decide (p.1.charging? ≠ p.2.charging?)

/-! ## One evaluation -/

/-- **An evaluation shows the step that covers the level and moves on from it**, or nothing when there is none. -/
theorem evaluate_cases (t : Theme Step) (d : Direction) (level : Binary64) (s : State) :
    (stepFor t d level = none ∧ evaluate t d level s = (.hidden, s)) ∨
      ∃ step, stepFor t d level = some step ∧
        evaluate t d level s =
          (⟨some (t.iconPath (iconOf s step).1), (iconOf s step).2, some step, eventOf s d step⟩, s.next d step) := by
  unfold evaluate
  split
  · next hnone => exact .inl ⟨hnone, rfl⟩
  · next step hstep => exact .inr ⟨step, hstep, rfl⟩

theorem evaluate_eq_hidden_iff {t : Theme Step} {d : Direction} {level : Binary64} {s : State} :
    evaluate t d level s = (.hidden, s) ↔ stepFor t d level = none := by
  obtain ⟨hnone, h⟩ | ⟨step, hstep, h⟩ := evaluate_cases t d level s
  · exact ⟨fun _ => hnone, fun _ => h⟩
  · rw [h, hstep]
    simp [Evaluation.hidden]

theorem eventOf_eq_some {s : State} {d : Direction} {step : Step} {callback : Callback}
    (h : eventOf s d step = some callback) : fires s d step = true := by
  unfold eventOf at h
  split at h
  · assumption
  · cases h

theorem differ_of_fires {s : State} {d : Direction} {step : Step} {last : Option Bool × Binary64}
    (h : fires s d step = true) (hlast : s.lastEvent = some last) : Differ last (d.charging?, step.minimum) := by
  unfold fires at h
  rw [hlast] at h
  simpa [Differ] using h

theorem charging_of_event? {o : Call × Evaluation} {e : Option Bool × Binary64} (h : event? o = some e) :
    e.1 = o.1.charging? := by
  obtain ⟨_, -, hstep⟩ := Option.bind_eq_some_iff.1 h
  obtain ⟨_, -, rfl⟩ := Option.map_eq_some_iff.1 hstep
  rfl

variable (s : State) (c : Call)

/-- The event that fired is remembered, and nothing else is. -/
theorem lastEvent_outcome : (c.outcome s).2.lastEvent = (event? (c, (c.outcome s).1)).or s.lastEvent := by
  obtain ⟨-, h⟩ | ⟨step, -, h⟩ := evaluate_cases c.theme c.direction c.level s
  · rw [Call.outcome, h]
    rfl
  · rw [Call.outcome, h]
    cases hevent : eventOf s c.direction step <;> simp [event?, State.next, Call.charging?, hevent]

theorem isSome_event? : (event? (c, (c.outcome s).1)).isSome = (c.outcome s).1.event.isSome := by
  obtain ⟨-, h⟩ | ⟨step, -, h⟩ := evaluate_cases c.theme c.direction c.level s
  · rw [Call.outcome, h]
    rfl
  · rw [Call.outcome, h]
    cases hevent : eventOf s c.direction step <;> simp [event?]

variable {s c}

/-- **An event differs from the one before it.** -/
theorem differ_of_event? {e last : Option Bool × Binary64} (he : event? (c, (c.outcome s).1) = some e)
    (hlast : s.lastEvent = some last) : Differ last e := by
  obtain ⟨-, h⟩ | ⟨step, -, h⟩ := evaluate_cases c.theme c.direction c.level s
  · rw [Call.outcome, h] at he
    cases he
  · rw [Call.outcome, h] at he
    obtain ⟨callback, hevent, hstep⟩ := Option.bind_eq_some_iff.1 he
    cases hstep
    exact differ_of_fires (eventOf_eq_some hevent) hlast

/-! ## Runs -/

theorem events_cons (s : State) (c : Call) (cs : List Call) :
    events s (c :: cs) = (event? (c, (c.outcome s).1)).toList ++ events (c.outcome s).2 cs := by
  rw [events, outcomes, List.filterMap_cons]
  cases event? (c, (c.outcome s).1) <;> rfl

/-- **Two events in a row differ**, the first one from the event that is remembered at the start. -/
theorem isChain_events : ∀ (calls : List Call) (s : State), (s.lastEvent.toList ++ events s calls).IsChain Differ
  | [], s => by
    cases s.lastEvent <;> simp [events, outcomes]
  | c :: cs, s => by
    have hrest : ((c.outcome s).2.lastEvent.toList ++ events (c.outcome s).2 cs).IsChain Differ := isChain_events cs _
    rw [lastEvent_outcome] at hrest
    rw [events_cons]
    -- an evaluation without an event leaves what is remembered; one with an event is where the rest starts
    cases he : event? (c, (c.outcome s).1) with
    | none =>
      rw [he] at hrest
      exact hrest
    | some e =>
      rw [he] at hrest
      cases hlast : s.lastEvent with
      | none => exact hrest
      | some last => exact List.isChain_cons_cons.2 ⟨differ_of_event? he hlast, hrest⟩

/-- **What is remembered is the latest event.** -/
theorem lastEvent_run : ∀ (calls : List Call) (s : State),
    (run calls s).lastEvent = (events s calls).getLast?.or s.lastEvent
  | [], _ => rfl
  | c :: cs, s => by
    show (run cs (c.outcome s).2).lastEvent = _
    rw [lastEvent_run cs, lastEvent_outcome, events_cons, List.getLast?_append, Option.or_assoc]
    cases event? (c, (c.outcome s).1) <;> rfl

theorem length_events : ∀ (calls : List Call) (s : State),
    (events s calls).length = (outcomes s calls).countP fun o => o.2.event.isSome
  | [], _ => rfl
  | c :: cs, s => by
    rw [events_cons, List.length_append, length_events cs, outcomes, List.countP_cons, ← isSome_event?]
    cases event? (c, (c.outcome s).1) <;> simp [Nat.add_comm]

/-! ## Charge states -/

/-- An event has the charge state of the evaluation at which it fired. -/
theorem charging_events_sublist : ∀ (calls : List Call) (s : State),
    ((events s calls).map Prod.fst).Sublist (calls.map Call.charging?)
  | [], _ => List.Sublist.refl _
  | c :: cs, s => by
    have hrest := charging_events_sublist cs (c.outcome s).2
    rw [events_cons, List.map_append, List.map_cons]
    cases he : event? (c, (c.outcome s).1) with
    | none => exact hrest.cons _
    | some e =>
      rw [← charging_of_event? he]
      exact hrest.cons_cons _

/-- With repetitions left out, the charge states are one more than their changes. -/
theorem length_destutter_charging : ∀ (cs : List Call) (c : Call),
    ((cs.map Call.charging?).destutter' (· ≠ ·) c.charging?).length = turns (c :: cs) + 1
  | [], _ => rfl
  | d :: cs, c => by
    have hturns : turns (c :: d :: cs) = turns (d :: cs) + if c.charging? ≠ d.charging? then 1 else 0 := by
      simp [turns, List.countP_cons]
    rw [List.map_cons, List.destutter'_cons, hturns]
    by_cases h : c.charging? = d.charging?
    · rw [if_neg (not_not.2 h), if_neg (not_not.2 h), h, length_destutter_charging cs d, Nat.add_zero]
    · rw [if_pos h, if_pos h, List.length_cons, length_destutter_charging cs d]

/-- Charge states that change at every place come from at least as many changes, less one. -/
theorem length_le_turns {flags : List (Option Bool)} {calls : List Call} (hchain : flags.IsChain (· ≠ ·))
    (hsub : flags.Sublist (calls.map Call.charging?)) : flags.length ≤ 1 + turns calls := by
  have hlength := hchain.length_le_length_destutter_ne hsub
  cases calls with
  | nil => exact hlength.trans (Nat.zero_le _)
  | cons c cs =>
    rw [List.map_cons, List.destutter_cons', length_destutter_charging] at hlength
    omega

/-- **An event fires only after the charge state has changed since the last one.**  In a run of evaluations of any
themes, directions and levels, two events in a row differ in the charge state and in the minimum, the first of them from
the event that is remembered at the start.  There are as many events as evaluations that give a callback.  What is
remembered is the latest event, and an evaluation after the run that gives no callback leaves it as it is.  If no event
is remembered at the start, then at most one callback is given more than the charge state changes from one evaluation to
the next. -/
theorem events_alternate (s : State) (calls : List Call) :
    (s.lastEvent.toList ++ events s calls).IsChain Differ ∧
    (events s calls).length = ((outcomes s calls).countP fun o => o.2.event.isSome) ∧
    (run calls s).lastEvent = (events s calls).getLast?.or s.lastEvent ∧
    (∀ c : Call, (c.outcome (run calls s)).1.event = none →
      (c.outcome (run calls s)).2.lastEvent = (run calls s).lastEvent) ∧
    (s.lastEvent = none → ((outcomes s calls).countP fun o => o.2.event.isSome) ≤ 1 + turns calls) := by
  have hchain := isChain_events calls s
  refine ⟨hchain, length_events calls s, lastEvent_run calls s, fun c hnone => ?_, fun hstart => ?_⟩
  · have hevent : event? (c, (c.outcome (run calls s)).1) = none := by
      rw [event?, hnone]
      rfl
    rw [lastEvent_outcome, hevent, Option.none_or]
  · rw [hstart] at hchain
    have hflags : ((events s calls).map Prod.fst).IsChain (· ≠ ·) :=
      List.isChain_map_of_isChain Prod.fst (fun _ _ h => h.1) hchain
    rw [← length_events, ← List.length_map Prod.fst]
    exact length_le_turns hflags (charging_events_sublist calls s)

/-- A theme with an event at each of its steps. -/
def alert : Theme Step :=
  let alarm : Callback := .hook "alarm" none
  ⟨some 2, .ofString "icons", [⟨0, 50, "a.png", none, some alarm⟩, ⟨50, 100, "b.png", none, some alarm⟩],
    [⟨0, 20, "c.png", none, some alarm⟩, ⟨20, 100, "d.png", none, some alarm⟩]⟩

/-- A charge that comes and goes, and is unknown in between. -/
def swinging : List Call :=
  [⟨alert, .discharging, 80⟩, ⟨alert, .full, 80⟩, ⟨alert, .charging, 30⟩, ⟨alert, .unknown, 80⟩,
    ⟨alert, .discharging, 10⟩]

theorem events_alternate_swinging :
    State.start.lastEvent = none ∧ events .start swinging = [(some false, 20), (some true, 50), (some false, 0)] ∧
      (events .start swinging).IsChain Differ ∧ (run swinging .start).lastEvent = some (some false, 0) ∧
      (Call.outcome ⟨alert, .charging, 0⟩ (run swinging .start)).2.lastEvent = some (some false, 0) ∧
      ((outcomes .start swinging).countP fun o => o.2.event.isSome) ≤ 1 + turns swinging := by
  have hevents : events .start swinging = [(some false, 20), (some true, 50), (some false, 0)] := by decide +kernel
  obtain ⟨hchain, -, hlast, hquiet, hbound⟩ := events_alternate .start swinging
  have hstart : State.start.lastEvent.toList = [] := rfl
  rw [hstart, List.nil_append] at hchain
  have hlatest : (events .start swinging).getLast?.or State.start.lastEvent = some (some false, 0) := by decide +kernel
  have hremembered := hlast.trans hlatest
  refine ⟨rfl, hevents, hchain, hremembered, ?_, hbound rfl⟩
  exact (hquiet ⟨alert, .charging, 0⟩ (by decide +kernel)).trans hremembered

end Evaluation
end BatteryIndicator
