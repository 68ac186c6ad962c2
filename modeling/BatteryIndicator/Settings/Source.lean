import BatteryIndicator.Files
import BatteryIndicator.Locations
import BatteryIndicator.Settings.Validation
import BatteryIndicator.Yaml.Document
/-!
# Source — the settings that are in effect

Settings come from a file: the one that is asked for, or else the one that the environment names.  Without a file they
are the defaults.  References to the environment in the file are filled in before it is read.
-/
namespace BatteryIndicator
namespace Settings

/-- The variable that names a settings file. -/
def pathVariable : String := "BATTRAY_SETTINGS"

/-- The value of a settings file, if it can be read. -/
def document? (env : Environment) (path : Path) (fs : Files) : Option Value :=
  match fs.readText path with
  | .ok text => Yaml.read? (String.ofList (env.fill text.toList))
  | .error _ => none

/-- A value that says nothing: settings that consist of it are the defaults. -/
def isNothing : Value → Bool
  | .null => true
  | .flag b => !b
  | .integer z => z == 0
  | .real x => x.equal 0
  | .text s => s.isEmpty
  | .brokenText _ => false
  | .bytes bs => bs.isEmpty
  | .list vs | .set vs => vs.isEmpty
  | .mapping es => es.isEmpty
  | .moment _ | .foreign => false

/-- The settings of a document. -/
def ofDocument (v : Value) : Except Failure Settings :=
  match validate v with
  | .ok s => .ok s
  | .error ps => .error (.settingsInvalid ps)

/-- The settings in a file that must be there. -/
def ofFile (env : Environment) (path : Path) (fs : Files) : Except Failure Settings :=
  match fs.pathExists path with
  | .error f => .error f
  | .ok false => .error (.settingsNotFound path)
  | .ok true =>
    match document? env path fs with
    | none => .error .settingsUnreadable
    | some v => ofDocument (if isNothing v then .mapping [] else v)

/-- The settings of the file at a path, or of the file that the environment names. -/
def load (env : Environment) (path : Option Path) (fs : Files) : Except Failure Settings :=
  match path.or ((env.nonempty? pathVariable).map .ofString) with
  | none => .ok default
  | some p => ofFile env p fs

/-- The settings of a user: those of the path if there is one, those that the environment names if it does, or else
those in the user's directory. -/
def loadForUser (env : Environment) (path : Option Path) (fs : Files) : Except Failure Settings :=
  if path.isSome || (env.nonempty? pathVariable).isSome then load env path fs
  else do
    let candidate := Locations.settingsIn (← Locations.userDirectory env)
    load env (if ← fs.fileExists candidate then some candidate else none) fs

end Settings
end BatteryIndicator
