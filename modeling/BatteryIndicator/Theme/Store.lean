import BatteryIndicator.Theme.File
/-!
# Store — where theme files and scripts leave their themes

A theme file adds themes, and a script chooses the default and changes themes by name.  They need no more of a store of
themes than this; a registry of themes is one, and so is a workbench whose themes share their steps.
-/
namespace BatteryIndicator

class ThemeStore (ρ : Type) where
  /-- adds a theme that was just read -/
  adopt : String → Theme Step → ρ → ρ
  makeDefault : String → ρ → ρ
  /-- attaches an event to a step of a theme -/
  setEvent : String → Int → Callback → Direction.Token → ρ → Except Failure ρ
  setDirectory : String → Path → ρ → Except Failure ρ
  names : ρ → List String
  /-- whether a name has a theme -/
  contains : String → ρ → Bool

namespace ThemeStore

variable {ρ : Type} [ThemeStore ρ]

/-- Adds themes one after the other. -/
def adoptAll (themes : List (String × Theme Step)) (r : ρ) : ρ := themes.foldl (fun r t => adopt t.1 t.2 r) r

/-- Adds the themes of a theme file and makes its last theme the default; a file that cannot be read to its end changes
the themes it completed and not the default. -/
def load (reading : Theme.File.Reading) (r : ρ) : Except Failure (Option String) × ρ :=
  let added := adoptAll reading.themes r
  match reading.result with
  | .ok (some name) => (.ok (some name), makeDefault name added)
  | result => (result, added)

end ThemeStore

instance : ThemeStore (Registry (Theme Step)) where
  adopt := Registry.register
  makeDefault := Registry.makeDefault
  setEvent := Registry.setEvent
  setDirectory := Registry.setDirectory
  names := Registry.names
  contains := Registry.contains

end BatteryIndicator
