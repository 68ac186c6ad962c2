import BatteryIndicator.Theme.Store
/-!
# Script — a configuration script and what it may ask for

A script is a row of calls, made in order on the themes loaded so far.  The first call that fails ends the script; what
the calls before it did remains.
-/
namespace BatteryIndicator

/-- What a script may do. -/
inductive Script.Call where
  | makeDefault (name : String)
  /-- the command is read before the theme, the direction and the index are looked at -/
  | setEvent (theme : String) (index : Int) (command : Command.Form) (direction : Direction.Token)
  | setDirectory (theme : String) (directory : Path)
  /-- fails unless just these themes are there, in this order -/
  | expectThemes (names : List String)
  /-- fails if the theme is there -/
  | expectMissing (name : String)
  | fail (text : String)

abbrev Script := List Script.Call

namespace Script

variable {ρ : Type} [ThemeStore ρ]

def Call.perform (r : ρ) : Call → Except Failure ρ
  | .makeDefault name => .ok (ThemeStore.makeDefault name r)
  | .setEvent theme index command direction =>
    command.argv.bind fun argv => ThemeStore.setEvent theme index (.command argv) direction r
  | .setDirectory theme directory => ThemeStore.setDirectory theme directory r
  | .expectThemes names =>
    let actual := ThemeStore.names r
    if actual = names then .ok r else .error (.other ("themes: " ++ String.intercalate "," actual))
  | .expectMissing name => if ThemeStore.contains name r then .error (.other "theme present") else .ok r
  | .fail text => .error (.other text)

/-- The calls in order: the failure that ended them, if any, and what they made of the themes. -/
def performAll : Script → ρ → Option Failure × ρ
  | [], r => (none, r)
  | c :: cs, r =>
    match c.perform r with
    | .ok r => performAll cs r
    | .error f => (some f, r)

/-- The note in the log that a script starts. -/
def started (path : Path) : Effect := .info ("Running script " ++ path.text)

/-- Runs the script at a path; its failure becomes a failure of the script. -/
def run (path : Path) (script : Script) (r : ρ) : Option Failure × ρ × List Effect :=
  let done := performAll script r
  (done.1.map (.script path), done.2, [started path])

end Script
end BatteryIndicator
