import BatteryIndicator.Proofs.MonitorRun
import BatteryIndicator.Proofs.EvaluationRun
import BatteryIndicator.Proofs.Step.Chain
/-!
# MonitorShown — what a monitor shows, whatever its events do

Take the events away from every step, and from a monitor the memory of the event that fired last.  A cycle of what is
left is the same cycle, but for its effects (`bare_perform`): an event has no part in the choice of a step or an icon, and
what comes of it decides nothing that follows.  So two runs on themes that differ in their events alone cannot be told
apart by what they show (`shown_whatever_events`).
-/
namespace BatteryIndicator

/-! ## Taking events away -/

/-- The theme with no event at any step. -/
def Theme.bare (t : Theme Step) : Theme Step := t.map Step.bare

namespace Registry

def bare (r : Registry (Theme Step)) : Registry (Theme Step) :=
  { r with themes := r.themes.map fun t => (t.1, t.2.bare) }

theorem theme?_bare (name : String) (r : Registry (Theme Step)) : r.bare.theme? name = (r.theme? name).map Theme.bare := by
  have hfind : ∀ es : Entries String (Theme Step),
      Entries.find? name (es.map fun t => (t.1, t.2.bare)) = (Entries.find? name es).map Theme.bare := by
    intro es
    induction es with
    | nil => rfl
    | cons e es ih =>
      rw [List.map_cons, Entries.find?_cons, Entries.find?_cons, ih]
      by_cases h : e.1 = name
      · simp [h]
      · simp [h]
  exact hfind r.themes

theorem active_bare (r : Registry (Theme Step)) : r.bare.active = r.active.map Theme.bare := by
  have hdefault : r.bare.default?.bind r.bare.theme? = (r.default?.bind r.theme?).map Theme.bare := by
    show r.default?.bind r.bare.theme? = _
    cases r.default? with
    | none => rfl
    | some name => exact theme?_bare name r
  unfold active
  rw [hdefault]
  cases r.default?.bind r.theme? <;> rfl

end Registry

namespace Evaluation

/-- The evaluation with neither an event nor a step that has one. -/
def bare (e : Evaluation) : Evaluation := { e with step := e.step.map Step.bare, event := none }

def State.bare (s : State) : State := { s with lastEvent := none }

theorem stepFor_bare (t : Theme Step) (d : Direction) (level : Binary64) :
    stepFor t.bare d level = (stepFor t d level).map Step.bare := by
  have hsteps : t.bare.stepsFor d = (t.stepsFor d).map Step.bare := by cases d <;> rfl
  unfold stepFor
  rw [hsteps, List.find?_map]
  rfl

/-- **An evaluation without events** is the evaluation with its event taken away. -/
theorem evaluate_bare (t : Theme Step) (d : Direction) (level : Binary64) (s : State) :
    evaluate t.bare d level s.bare = ((evaluate t d level s).1.bare, (evaluate t d level s).2.bare) := by
  have hstep := stepFor_bare t d level
  obtain ⟨hnone, h⟩ | ⟨step, hsome, h⟩ := evaluate_cases t d level s
  · rw [hnone] at hstep
    rw [h, evaluate_eq_hidden_iff.2 hstep]
    rfl
  · have hevent : eventOf s.bare d step.bare = none := ite_self none
    have hnext : s.bare.next d step.bare = (s.next d step).bare := by
      unfold State.next
      rw [hevent]
      rfl
    rw [hsome] at hstep
    unfold evaluate
    rw [hstep, hsome]
    dsimp only [Option.map_some]
    rw [hevent, hnext]
    rfl

end Evaluation

/-- The cycle on themes without events, which start no program. -/
def Cycle.bare (c : Cycle) : Cycle := { c with registry := c.registry.bare, outcome := .finished "" }

namespace Monitor

def bare (m : Monitor) : Monitor :=
  { m with evaluation := m.evaluation.bare, lastEvaluation := m.lastEvaluation.map Evaluation.bare }

theorem display_bare (t : Theme Step) (r : Reading) (m : Monitor) :
    let e := (m.observe r).evaluate t r.direction r.level
    let e' := (m.bare.observe r).evaluate t.bare r.direction r.level
    e'.2.display e'.1 = (e.2.display e.1).bare := by
  have he : Evaluation.evaluate t.bare r.direction r.level (m.bare.observe r).evaluation =
      ((Evaluation.evaluate t r.direction r.level m.evaluation).1.bare,
        (Evaluation.evaluate t r.direction r.level m.evaluation).2.bare) :=
    Evaluation.evaluate_bare t r.direction r.level m.evaluation
  unfold evaluate
  rw [he]
  rfl

theorem warn_bare (r : Reading) (m : Monitor) :
    (m.bare.warn r).1 = (m.warn r).1 ∧ (m.bare.warn r).2.1 = (m.warn r).2.1.bare := by
  have hcheck : m.bare.check r.level r.charging? =
      ((m.check r.level r.charging?).1, (m.check r.level r.charging?).2.1.bare, (m.check r.level r.charging?).2.2) := rfl
  unfold warn
  rw [hcheck]
  rcases m.check r.level r.charging? with ⟨_ | w, m', logged⟩
  · exact ⟨rfl, rfl⟩
  · exact ⟨rfl, rfl⟩

/-- **A cycle without events** ends as the cycle does, and leaves the same monitor but for the memory of events. -/
theorem bare_perform (c : Cycle) (m : Monitor) :
    (m.bare.perform c.bare).1 = (m.perform c).1 ∧ (m.bare.perform c.bare).2.1 = (m.perform c).2.1.bare := by
  cases hr : c.reading with
  | none =>
    have hbare : c.bare.reading = none := hr
    rw [perform_idle hr, perform_idle hbare]
    exact ⟨rfl, rfl⟩
  | some r =>
    have hbare : m.bare.perform c.bare = m.bare.cycle (c.registry.active.map Theme.bare) (.finished "") r := by
      have hreading : c.bare.reading = some r := hr
      rw [perform_of_reading hreading, ← Registry.active_bare]
      rfl
    rw [perform_of_reading hr, hbare]
    cases c.registry.active with
    | error f => exact ⟨rfl, rfl⟩
    | ok t =>
      obtain ⟨hfailure, hafter⟩ := warn_bare r
        (((m.observe r).evaluate t r.direction r.level).2.display ((m.observe r).evaluate t r.direction r.level).1)
      rw [← display_bare] at hfailure hafter
      exact ⟨hfailure, hafter⟩

end Monitor

/-! ## What is shown -/

/-- What can be seen of a cycle: how it ended, and after it the tray, the messages, the phase of flashing steps and the
level of the last warning. -/
structure Shown where
  failure : Option Failure
  tray : Tray
  notifier : Notifier
  phase : Bool
  lastWarning : Binary64

def Performed.shown (p : Performed) : Shown :=
  ⟨p.failure, p.after.tray, p.after.notifier, p.after.evaluation.phase, p.after.lastWarning⟩

namespace Monitor

theorem shown_bare : ∀ (cycles : List Cycle) (m : Monitor),
    (m.bare.history (cycles.map Cycle.bare)).map Performed.shown = (m.history cycles).map Performed.shown
  | [], _ => rfl
  | c :: cs, m => by
    obtain ⟨hfailure, hafter⟩ := bare_perform c m
    have hshown : (m.bare.performed c.bare).shown = (m.performed c).shown := by
      unfold Performed.shown performed
      rw [hfailure, hafter]
      rfl
    have hrest : ((m.bare.performed c.bare).after.history (cs.map Cycle.bare)).map Performed.shown =
        ((m.performed c).after.history cs).map Performed.shown := by
      unfold performed
      rw [hafter]
      exact shown_bare cs (m.perform c).2.1
    exact congrArg₂ List.cons hshown hrest

/-- **What is shown does not depend on events.**  Two runs of one monitor on the same readings, and on themes that are
the same with their events taken away, show the same after every cycle: the tray with all that it was told to show, the
messages that the channels were given, the phase of flashing steps, the level of the last warning, and how the cycle
ended.  This holds whatever events there are at which steps, whichever of them fail, and whatever comes of the programs
that they start. -/
theorem shown_whatever_events (m : Monitor) (cycles cycles' : List Cycle)
    (h : cycles.map Cycle.bare = cycles'.map Cycle.bare) :
    (m.history cycles).map Performed.shown = (m.history cycles').map Performed.shown := by
  rw [← shown_bare cycles, ← shown_bare cycles', h]

/-- A battery that falls, with an event at the step that flashes meanwhile. -/
def falling (event : Option Callback) : List Cycle :=
  let flash : Step := ⟨0, 100, "low.png", some "empty.png", event⟩
  let themes : Registry (Theme Step) := ⟨[("plain", ⟨some 1, .ofString "icons", [], [flash]⟩)], some "plain"⟩
  [some 9, none, some 4].map fun level =>
    ⟨themes, .finished "", level.map fun level => ⟨level, .discharging, []⟩⟩

theorem shown_whatever_events_falling :
    let m := Monitor.new [10, 5] (.new none (.new false))
    let alarmed := falling (some (.hook "alarm" (some "silent")))
    alarmed.map Cycle.bare = (falling none).map Cycle.bare ∧
      ((m.history alarmed).flatMap fun p => p.effects.filterMap Effect.call?) = [⟨"alarm", 9, some false⟩] ∧
      ((m.history (falling none)).flatMap fun p => p.effects.filterMap Effect.call?) = [] ∧
      (m.history alarmed).map Performed.shown = (m.history (falling none)).map Performed.shown := by
  intro m alarmed
  have hbare : alarmed.map Cycle.bare = (falling none).map Cycle.bare := rfl
  refine ⟨hbare, ?_, ?_, shown_whatever_events m alarmed (falling none) hbare⟩
  · decide +kernel
  · decide +kernel

end Monitor
end BatteryIndicator
