import BatteryIndicator.Entries
import BatteryIndicator.Theme
/-!
# Registry — themes by name, one of them the default

Registering a theme under a name that is taken replaces the theme and keeps the name's place.  The default is a name and
nothing more: it is checked against the registered names only when the active theme is asked for.  As with steps, the
type of the themes is a parameter.
-/
namespace BatteryIndicator

structure Registry (θ : Type) where
  themes : Entries String θ
  default? : Option String
deriving DecidableEq, Inhabited

namespace Registry

variable {θ : Type}

def empty : Registry θ := ⟨[], none⟩

def register (name : String) (theme : θ) (r : Registry θ) : Registry θ :=
  { r with themes := r.themes.put name theme }

/-- Registers themes one after the other. -/
def registerAll (themes : List (String × θ)) (r : Registry θ) : Registry θ :=
  themes.foldl (fun r t => r.register t.1 t.2) r

def makeDefault (name : String) (r : Registry θ) : Registry θ := { r with default? := some name }

def theme? (name : String) (r : Registry θ) : Option θ := r.themes.find? name

def names (r : Registry θ) : List String := r.themes.keys

def size (r : Registry θ) : Nat := r.themes.length

def contains (name : String) (r : Registry θ) : Bool := (r.theme? name).isSome

/-- The default theme, if a default is set and registered. -/
def active (r : Registry θ) : Except Failure θ :=
  match r.default?.bind r.theme? with
  | some t => .ok t
  | none => .error (.noDefaultTheme r.default?)

/-- Attaches an event to a step of a registered theme.  Of several reasons to refuse, the theme comes first, then the
direction, then the index. -/
def setEvent (name : String) (index : Int) (callback : Callback) (token : Direction.Token)
    (r : Registry (Theme Step)) : Except Failure (Registry (Theme Step)) :=
  match r.theme? name with
  | none => .error (.unknownTheme name)
  | some t => (t.setEvent index callback token).map fun t => r.register name t

/-- Sets the icon directory of a registered theme. -/
def setDirectory (name : String) (directory : Path) (r : Registry (Theme Step)) :
    Except Failure (Registry (Theme Step)) :=
  match r.theme? name with
  | none => .error (.noTheme .directory)
  | some t => .ok (r.register name (t.setDirectory directory))

end Registry
end BatteryIndicator
