import BatteryIndicator.Files
import BatteryIndicator.Locations
/-!
# Loading — the themes of the system and of the user

The theme file of the system comes first, then its script, then the theme file of the user and the user's script; each
may be absent.  The last theme of a theme file becomes the default, and scripts may choose another.  A failure ends the
loading and leaves what was loaded before it.  In the end the default must be one of the themes.
-/
namespace BatteryIndicator
namespace Loading

/-- A step of the loading: the failure that ends it, if any, and the themes and effects it comes to. -/
abbrev Stage := Registry (Theme Step) → Option Failure × Registry (Theme Step) × List Effect

/-- Stages one after the other, up to the first failure. -/
def inOrder : List Stage → Stage
  | [], r => (none, r, [])
  | s :: ss, r =>
    match s r with
    | (some f, r, effects) => (some f, r, effects)
    | (none, r, effects) =>
      let rest := inOrder ss r
      (rest.1, rest.2.1, effects ++ rest.2.2)

/-- The reading of the theme file at a path. -/
def readThemes (directory path : Path) (fs : Files) : Except Failure Theme.File.Reading :=
  (fs.readLines path).map fun r =>
    match r.2 with
    | none => Theme.File.read ⟨path.text, directory⟩ r.1
    | some f => Theme.File.readUpTo ⟨path.text, directory⟩ f r.1

/-- Loads a theme file that is there. -/
def loadThemes (directory path : Path) (fs : Files) : Stage := fun r =>
  match readThemes directory path fs with
  | .error f => (some f, r, [])
  | .ok reading =>
    let effects := reading.problems.map Problem.effect
    match ThemeStore.load reading r with
    | (.ok _, r) => (none, r, effects)
    | (.error f, r) => (some f, r, effects)

/-- Runs a script that is there. -/
def runScript (path : Path) (fs : Files) : Stage := fun r =>
  match fs.readScript path with
  | .error f => (some f, r, [])
  | .ok script => script.run path r

/-- A stage for a file, if it is there, and effects if it is not. -/
def ifThere (path : Path) (fs : Files) (stage : Stage) (otherwise : List Effect) : Stage := fun r =>
  match fs.fileExists path with
  | .error f => (some f, r, [])
  | .ok true => stage r
  | .ok false => (none, r, otherwise)

/-- The theme file and the script of a directory. -/
def directory (icons dir : Path) (fs : Files) (otherwise : List Effect) : List Stage :=
  let themes := Locations.themesIn dir
  let script := Locations.scriptIn dir
  [ifThere themes fs (loadThemes icons themes fs) otherwise, ifThere script fs (runScript script fs) []]

/-- A system without a theme file is worth a warning. -/
def missing (l : Locations) : Effect :=
  .warning ("System theme file " ++ (Locations.themesIn l.system).text ++ " not found")

/-- The name of the default theme, which must be registered. -/
def defaultName (r : Registry (Theme Step)) : Except Failure String :=
  match r.default? with
  | some name => if r.contains name then .ok name else .error (.noDefaultTheme (some name))
  | none => .error (.noDefaultTheme none)

/-- The note in the log that loading is done. -/
def done (name : String) (r : Registry (Theme Step)) : Effect :=
  .info ("Using theme " ++ Text.quoted name ++ " (" ++ toString r.size ++ " themes loaded)")

/-- Loads the themes of the system and of the user; new themes start with a directory of icons. -/
def load (icons : Path) (l : Locations) (fs : Files) (r : Registry (Theme Step)) :
    Except Failure String × Registry (Theme Step) × List Effect :=
  match inOrder (directory icons l.system fs [missing l] ++ directory icons l.user fs []) r with
  | (some f, r, effects) => (.error f, r, effects)
  | (none, r, effects) =>
    match defaultName r with
    | .error f => (.error f, r, effects)
    | .ok name => (.ok name, r, effects ++ [done name r])

end Loading
end BatteryIndicator
