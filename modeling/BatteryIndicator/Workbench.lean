import BatteryIndicator.Evaluation
import BatteryIndicator.Theme.Store
/-!
# Workbench — themes that share their steps

A theme may be registered under several names, and a step may stand in several step sets: what is changed through one of
them shows in all.  So themes and steps are numbered and kept once, a theme holds the numbers of its steps, and the
registry the numbers of its themes.  A name may also be registered for no theme at all; it is a name like any other until
its theme is needed.  `view` is a theme with the steps that its numbers stand for.
-/
namespace BatteryIndicator

structure Workbench where
  steps : List Step
  themes : List (Theme Nat)
  registry : Registry (Option Nat)
deriving Inhabited

namespace Workbench

def empty : Workbench := ⟨[], [], .empty⟩

/-! ## Views -/

def step (number : Nat) (w : Workbench) : Step := w.steps.getD number Inhabited.default

def theme (number : Nat) (w : Workbench) : Theme Nat := w.themes.getD number Inhabited.default

/-- A theme with its steps. -/
def view (number : Nat) (w : Workbench) : Theme Step := (w.theme number).map fun n => w.step n

/-- The number of the active theme, if it is one. -/
def active (w : Workbench) : Except Failure (Option Nat) := w.registry.active

/-- The number of a registered theme. -/
def find? (name : String) (w : Workbench) : Option Nat := (w.registry.theme? name).join

/-- The number of the step that covers a level. -/
def stepFor (number : Nat) (d : Direction) (level : Binary64) (w : Workbench) : Option Nat :=
  ((w.theme number).stepsFor d).find? fun n => (w.step n).covers level

/-! ## Changes -/

/-- New steps, and their numbers. -/
def addSteps (steps : List Step) (w : Workbench) : List Nat × Workbench :=
  (List.range' w.steps.length steps.length, { w with steps := w.steps ++ steps })

/-- A new theme, and its number. -/
def addTheme (t : Theme Nat) (w : Workbench) : Nat × Workbench :=
  (w.themes.length, { w with themes := w.themes ++ [t] })

/-- A new theme with steps of its own, and its number. -/
def addView (t : Theme Step) (w : Workbench) : Nat × Workbench :=
  let c := w.addSteps t.charging
  let d := c.2.addSteps t.discharging
  d.2.addTheme ⟨t.stepCount, t.directory, c.1, d.1⟩

def register (name : String) (number : Option Nat) (w : Workbench) : Workbench :=
  { w with registry := w.registry.register name number }

def makeDefault (name : String) (w : Workbench) : Workbench :=
  { w with registry := w.registry.makeDefault name }

def putTheme (number : Nat) (t : Theme Nat) (w : Workbench) : Workbench :=
  { w with themes := w.themes.set number t }

def setDirectory (number : Nat) (directory : Path) (w : Workbench) : Workbench :=
  w.putTheme number ((w.theme number).setDirectory directory)

def setStepCount (number : Nat) (count : Int) (w : Workbench) : Except Failure Workbench :=
  ((w.theme number).setStepCount count).map fun t => w.putTheme number t

/-- Assigns a step set by the numbers of its steps. -/
def setSteps (number : Nat) (d : Direction) (steps : List Nat) (w : Workbench) : Except Failure Workbench :=
  ((w.theme number).setSteps d steps).map fun t => w.putTheme number t

/-- Attaches an event to the step that a token and an index mean; it shows wherever that step stands. -/
def setEvent (number : Nat) (index : Int) (callback : Callback) (token : Direction.Token) (w : Workbench) :
    Except Failure Workbench :=
  ((w.theme number).place index token).map fun p =>
    match ((w.theme number).stepsFor p.1)[p.2]? with
    | some n => { w with steps := w.steps.modify n fun s => { s with event := some callback } }
    | none => w

/-! ## Themes by name -/

def adopt (name : String) (t : Theme Step) (w : Workbench) : Workbench :=
  let a := w.addView t
  a.2.register name (some a.1)

def setEventOf (name : String) (index : Int) (callback : Callback) (token : Direction.Token) (w : Workbench) :
    Except Failure Workbench :=
  match w.find? name with
  | none => .error (.unknownTheme name)
  | some n => w.setEvent n index callback token

def setDirectoryOf (name : String) (directory : Path) (w : Workbench) : Except Failure Workbench :=
  match w.find? name with
  | none => .error (.noTheme .directory)
  | some n => .ok (w.setDirectory n directory)

instance : ThemeStore Workbench where
  adopt := adopt
  makeDefault := makeDefault
  setEvent := setEventOf
  setDirectory := setDirectoryOf
  names w := w.registry.names
  contains name w := (w.find? name).isSome

end Workbench
end BatteryIndicator
