import BatteryIndicator.Evaluation
import BatteryIndicator.Notifier
import BatteryIndicator.Report.Source
import BatteryIndicator.Warning
/-!
# Monitor — one cycle from a reading to the tray

A cycle takes a reading, sets the tooltip, evaluates the active theme, shows or hides the icon, runs the event that fires
and raises a warning if one is due.  Without a reading nothing happens at all; without an active theme the cycle ends
after the tooltip.  An event that fails is logged, and the cycle goes on.
-/
namespace BatteryIndicator

/-- The indicator in the tray, with all that it was told to show. -/
structure Tray where
  tooltip : Option String
  icon : Option Path
  visible : Bool
  history : List (Option Path)
deriving DecidableEq, Inhabited

namespace Tray

def new : Tray := ⟨none, none, false, []⟩

def setTooltip (text : String) (t : Tray) : Tray := { t with tooltip := some text }

/-- Shows the icon, or hides the indicator when there is none. -/
def display (icon : Option Path) (t : Tray) : Tray :=
  { t with icon := icon, visible := icon.isSome, history := t.history ++ [icon] }

end Tray

structure Monitor where
  thresholds : List Binary64
  /-- the level of the last warning -/
  lastWarning : Binary64
  evaluation : Evaluation.State
  tray : Tray
  notifier : Notifier
  lastReading : Option Reading
  lastEvaluation : Option Evaluation
deriving DecidableEq, Inhabited

namespace Monitor

def new (thresholds : List Binary64) (notifier : Notifier) : Monitor :=
  ⟨thresholds, Warning.fullLevel, .start, .new, notifier, none, none⟩

/-- Notes a reading, and sets the tooltip. -/
def observe (r : Reading) (m : Monitor) : Monitor :=
  { m with lastReading := some r, tray := m.tray.setTooltip r.tooltip }

/-- Evaluates a theme for a level, without showing anything. -/
def evaluate (t : Theme Step) (d : Direction) (level : Binary64) (m : Monitor) : Evaluation × Monitor :=
  let r := Evaluation.evaluate t d level m.evaluation
  (r.1, { m with evaluation := r.2 })

/-- Shows what an evaluation came to. -/
def display (e : Evaluation) (m : Monitor) : Monitor :=
  { m with lastEvaluation := some e, tray := m.tray.display e.icon }

/-- Runs the event that an evaluation fires, if any, and logs its failure. -/
def runEvent (outcome : Command.Outcome) (r : Reading) (event : Option Callback) : List Effect :=
  match event with
  | none => []
  | some c =>
    let ran := c.run outcome r.level r.charging?
    .info ("Running event for " ++ Number.fixed 1 r.level ++ "% (" ++ r.direction.name ++ ")") :: ran.2 ++
      (if ran.1.isSome then [.error ("Event callback " ++ c.literal ++ " failed")] else [])

/-- The warning that a level raises, noted as the last one. -/
def check (level : Binary64) (charging : Option Bool) (m : Monitor) : Option Warning × Monitor × List Effect :=
  let r := Warning.check m.thresholds m.lastWarning level charging
  (r.2, { m with lastWarning := r.1 }, r.2.toList.map Warning.effect)

/-- Raises the warning that is due, if any. -/
def warn (r : Reading) (m : Monitor) : Option Failure × Monitor × List Effect :=
  match m.check r.level r.charging? with
  | (none, m, logged) => (none, m, logged)
  | (some w, m, logged) =>
    let sent := m.notifier.notify ⟨Warning.title, w.body⟩
    (sent.1, { m with notifier := sent.2.1 }, logged ++ sent.2.2)

/-- One cycle on a reading with the theme that is active.  `outcome` is what comes of the program if the event starts
one. -/
def cycle (active : Except Failure (Theme Step)) (outcome : Command.Outcome) (r : Reading) (m : Monitor) :
    Option Failure × Monitor × List Effect :=
  match active with
  | .error f => (some f, m.observe r, [])
  | .ok t =>
    let e := (m.observe r).evaluate t r.direction r.level
    let w := (e.2.display e.1).warn r
    (w.1, w.2.1, runEvent outcome r e.1.event ++ w.2.2)

/-- One cycle, which does nothing without a reading. -/
def poll (active : Except Failure (Theme Step)) (outcome : Command.Outcome) (reading : Option Reading) (m : Monitor) :
    Option Failure × Monitor × List Effect :=
  match reading with
  | none => (none, m, [])
  | some r => m.cycle active outcome r

end Monitor
end BatteryIndicator
