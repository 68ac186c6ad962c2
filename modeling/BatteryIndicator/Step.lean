import BatteryIndicator.Callback
/-!
# Step — one range of levels and what to show for it

A step covers the levels above its minimum up to and including its maximum, so a level of exactly zero is covered by no
step that starts at zero.  A step with an alternate icon flashes between its two icons.
-/
namespace BatteryIndicator

structure Step where
  minimum : Binary64
  maximum : Binary64
  icon : String
  alternate : Option String
  event : Option Callback
deriving DecidableEq, Inhabited

namespace Step

def flashing (s : Step) : Bool := s.alternate.isSome

/-- Open below, closed above. -/
def covers (s : Step) (level : Binary64) : Bool := s.minimum.lt level && level.le s.maximum

end Step
end BatteryIndicator
