import BatteryIndicator.Environment
import BatteryIndicator.Failure
/-!
# Locations — where the configuration is

The system has one directory of configuration files and each user another one, named by the environment.  Either may
hold a theme file and a script; the user's may hold settings as well.
-/
namespace BatteryIndicator

structure Locations where
  system : Path
  user : Path
deriving DecidableEq, Inhabited

namespace Locations

/-- The name of the user's directory. -/
def directoryName : String := "battray"

/-- The user's directory: within the one that is set for configuration files, or else within the home directory. -/
def userDirectory (env : Environment) : Except Failure Path :=
  match env.nonempty? "XDG_CONFIG_HOME", env.nonempty? "HOME" with
  | some directory, _ => .ok ((Path.ofString directory).child directoryName)
  | none, some home => .ok (((Path.ofString home).child ".config").child directoryName)
  | none, none => .error .missingHome

def discover (system : Path) (env : Environment) : Except Failure Locations :=
  (userDirectory env).map fun user => ⟨system, user⟩

def themesIn (directory : Path) : Path := directory.child "themes.conf"

def scriptIn (directory : Path) : Path := directory.child "rc.py"

def settingsIn (directory : Path) : Path := directory.child "settings.yaml"

end Locations
end BatteryIndicator
