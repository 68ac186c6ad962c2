import BatteryIndicator.Path
import BatteryIndicator.Report.Source
/-!
# Settings — how the indicator behaves, apart from its themes

Every setting has a default, so settings that say nothing are complete.
-/
namespace BatteryIndicator

structure Settings where
  /-- the levels that raise a warning, in the order in which they are looked at -/
  thresholds : List Binary64
  /-- the words of the command that reports on the batteries -/
  batteryCommand : List RawText
  /-- the directory that the icons of a new theme are in -/
  iconDirectory : Path
  /-- the directory of the theme file and the script of the system -/
  systemDirectory : Path
  /-- whether warnings are notifications rather than dialogs -/
  notifications : Bool
deriving DecidableEq, Inhabited

namespace Settings

def defaultIconDirectory : Path := .ofString "/usr/share/battray/icons"

def default : Settings where
  thresholds := [10, 5, 3]
  batteryCommand := Report.defaultCommand
  iconDirectory := defaultIconDirectory
  systemDirectory := .ofString "/etc/battray"
  notifications := true

end Settings
end BatteryIndicator
