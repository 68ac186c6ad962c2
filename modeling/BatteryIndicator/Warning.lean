import BatteryIndicator.Effect
/-!
# Warning — low levels, each threshold once

The state between two polls is the level of the last warning, and `100` when there is none to remember.  A poll that
charges forgets it.  Any other poll looks for the first threshold, in the order given, that lies below the last warning
and that the level has fallen to; if there is one, it warns, and the level of the poll becomes the last one.
-/
namespace BatteryIndicator

structure Warning where
  threshold : Binary64
  level : Binary64
deriving DecidableEq, Inhabited

namespace Warning

def title : String := "Low battery"

def body (w : Warning) : String :=
  "Battery level is " ++ Number.fixed 0 w.level ++ "% (warning threshold " ++ Number.general w.threshold ++ "%)."

/-- The level that stands for "no warning yet". -/
def fullLevel : Binary64 := 100

/-- Whether a threshold that is not yet warned about is reached. -/
def due (last level threshold : Binary64) : Bool := !last.le threshold && level.le threshold

/-- The level of the last warning after a poll, and the warning that the poll raises. -/
def check (thresholds : List Binary64) (last level : Binary64) (charging : Option Bool) : Binary64 × Option Warning :=
  if charging = some true then (fullLevel, none)
  else
    match thresholds.find? (due last level) with
    | some t => (level, some ⟨t, level⟩)
    | none => (last, none)

/-- The note in the log. -/
def effect (w : Warning) : Effect :=
  .info ("Battery at " ++ Number.fixed 1 w.level ++ "% crossed warning threshold " ++ Number.general w.threshold ++ "%")

end Warning
end BatteryIndicator
