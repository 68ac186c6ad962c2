import BatteryIndicator.Text.Blank
import BatteryIndicator.Text.LowerCase
import BatteryIndicator.Value
/-!
# Direction — which way the charge goes

A reading reports one of four directions.  Only `discharging` selects the discharging steps of a theme; the other three
select the charging steps.  A script names a direction by a token: one of the two selecting directions, or its name in
any case and with blanks around it.
-/
namespace BatteryIndicator

inductive Direction where
  | charging
  | discharging
  | full
  | unknown
deriving DecidableEq, Inhabited

namespace Direction

def name : Direction → String
  | .charging => "charging"
  | .discharging => "discharging"
  | .full => "full"
  | .unknown => "unknown"

/-- The name in capitals, which identifies a direction in messages. -/
def label : Direction → String
  | .charging => "CHARGING"
  | .discharging => "DISCHARGING"
  | .full => "FULL"
  | .unknown => "UNKNOWN"

def all : List Direction := [.charging, .discharging, .full, .unknown]

/-- What an event is told about the charge: that it charges, that it does not, or that this is unknown. -/
def charging? : Direction → Option Bool
  | .discharging => some false
  | .unknown => none
  | .charging | .full => some true

/-- What a script passes as a direction. -/
inductive Token where
  | direction (d : Direction)
  | text (s : String)
  | other (v : Value)

/-- The text that stands for a token in a message. -/
def Token.literal : Token → String
  | .direction d => "<Direction." ++ d.label ++ ": " ++ Text.quoted d.name ++ ">"
  | .text s => Text.quoted s
  | .other v => v.literal

/-- The direction whose steps a token selects; a token that selects none is refused. -/
def Token.resolve? : Token → Option Direction
  | .direction .charging => some .charging
  | .direction .discharging => some .discharging
  | .direction _ => none
  | .text s =>
    let word := Text.lower (Text.trim s.toList)
    if word = "charging".toList then some .charging
    else if word = "discharging".toList then some .discharging
    else none
  | .other _ => none

end Direction
end BatteryIndicator
