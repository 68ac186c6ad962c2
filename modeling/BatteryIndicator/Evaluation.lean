import BatteryIndicator.Theme
/-!
# Evaluation — the icon and the event for a level

The first step that covers the level decides.  A flashing step shows its two icons in turn over the evaluations that
meet flashing steps, the primary icon first.  An event fires when none has fired before, or when both the charge state
and the minimum of the step differ from those of the event that fired last.
-/
namespace BatteryIndicator

/-- What an evaluation shows: the icon, or nothing; whether it is the alternate one; the step; the event that fires. -/
structure Evaluation where
  icon : Option Path
  alternate : Bool
  step : Option Step
  event : Option Callback
deriving DecidableEq, Inhabited

namespace Evaluation

def visible (e : Evaluation) : Bool := e.icon.isSome

/-- The evaluation of a level that no step covers. -/
def hidden : Evaluation := ⟨none, false, none, none⟩

/-- What is carried from one evaluation to the next: the charge state and step minimum of the event that fired last, and
whether the next flashing step shows its alternate icon. -/
structure State where
  lastEvent : Option (Option Bool × Binary64)
  phase : Bool
deriving DecidableEq, Inhabited

def State.start : State := ⟨none, false⟩

/-- The first step of the direction that covers the level. -/
def stepFor (t : Theme Step) (d : Direction) (level : Binary64) : Option Step :=
  (t.stepsFor d).find? (·.covers level)

/-- Whether an event of a step fires now. -/
def fires (s : State) (d : Direction) (step : Step) : Bool :=
  match s.lastEvent with
  | none => true
  | some (charging, minimum) => decide (charging ≠ d.charging?) && !minimum.equal step.minimum

/-- The icon of a step, and whether it is the alternate one. -/
def iconOf (s : State) (step : Step) : String × Bool :=
  match step.alternate with
  | some alternate => if s.phase then (alternate, true) else (step.icon, false)
  | none => (step.icon, false)

/-- The event of a step that fires. -/
def eventOf (s : State) (d : Direction) (step : Step) : Option Callback :=
  if fires s d step then step.event else none

/-- The state after a step was shown. -/
def State.next (s : State) (d : Direction) (step : Step) : State :=
  { lastEvent := if (eventOf s d step).isSome then some (d.charging?, step.minimum) else s.lastEvent
    phase := if step.flashing then !s.phase else s.phase }

/-- The evaluation of a level, and the state after it. -/
def evaluate (t : Theme Step) (d : Direction) (level : Binary64) (s : State) : Evaluation × State :=
  match stepFor t d level with
  | none => (hidden, s)
  | some step =>
    let icon := iconOf s step
    (⟨some (t.iconPath icon.1), icon.2, some step, eventOf s d step⟩, s.next d step)

end Evaluation
end BatteryIndicator
