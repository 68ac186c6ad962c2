import BatteryIndicator.Step
/-!
# Theme — icon steps for both charge directions

A theme declares how many steps a step set has, the directory of its icons, and the step sets themselves.  A step set
must have the declared number of steps at the moment it is assigned.  The type of the steps is a parameter, so that a
theme may hold steps or references to steps that it shares with others.
-/
namespace BatteryIndicator

structure Theme (σ : Type) where
  stepCount : Option Nat
  directory : Path
  charging : List σ
  discharging : List σ
deriving DecidableEq, Inhabited

namespace Theme

variable {σ τ : Type}

/-- A theme with nothing declared but the directory of its icons. -/
def new (directory : Path) : Theme σ := ⟨none, directory, [], []⟩

def setStepCount (count : Int) (t : Theme σ) : Except Failure (Theme σ) :=
  if count ≤ 0 then .error (.countNotPositive count) else .ok { t with stepCount := some count.toNat }

def setDirectory (directory : Path) (t : Theme σ) : Theme σ := { t with directory := directory }

/-- Refuses a step set that has not the declared number of steps. -/
def checkShape (steps : List σ) (t : Theme σ) : Except Failure Unit :=
  if t.stepCount = some steps.length then .ok () else .error (.shapeMismatch t.stepCount steps.length)

/-- The step set that is used in a direction. -/
def stepsFor (d : Direction) (t : Theme σ) : List σ :=
  match d with
  | .discharging => t.discharging
  | _ => t.charging

/-- Replaces the step set that is used in a direction. -/
def putSteps (d : Direction) (steps : List σ) (t : Theme σ) : Theme σ :=
  match d with
  | .discharging => { t with discharging := steps }
  | _ => { t with charging := steps }

/-- Assigns the step set of a direction, if it has the declared number of steps. -/
def setSteps (d : Direction) (steps : List σ) (t : Theme σ) : Except Failure (Theme σ) :=
  (t.checkShape steps).map fun _ => t.putSteps d steps

/-- The path of an icon: relative to the theme's directory. -/
def iconPath (icon : String) (t : Theme σ) : Path := t.directory.child icon

/-- The theme with each step replaced. -/
def map (f : σ → τ) (t : Theme σ) : Theme τ := ⟨t.stepCount, t.directory, t.charging.map f, t.discharging.map f⟩

/-! ## Places

An index counts from the first step, or, when it is negative, back from the end. -/

/-- The bound on the size of an index of either sign. -/
def indexBound : Int := Int.pow 2 63

/-- The position that an index means in a list of this length. -/
def position (length : Nat) (index : Int) : Except Failure Nat :=
  if index < -indexBound ∨ indexBound ≤ index then .error .indexTooLarge
  else if 0 ≤ index ∧ index < length then .ok index.toNat
  else if index < 0 ∧ -(length : Int) ≤ index then .ok (length + index).toNat
  else .error .noSuchItem

/-- The direction and the position of the step that a token and an index mean. -/
def place (index : Int) (token : Direction.Token) (t : Theme σ) : Except Failure (Direction × Nat) :=
  match token.resolve? with
  | none => .error (.invalidDirection token)
  | some d => (position (t.stepsFor d).length index).map (d, ·)

/-- Attaches an event to the step that a token and an index mean, in place of the one it had. -/
def setEvent (index : Int) (callback : Callback) (token : Direction.Token) (t : Theme Step) :
    Except Failure (Theme Step) :=
  (t.place index token).map fun p =>
    t.putSteps p.1 ((t.stepsFor p.1).modify p.2 fun s => { s with event := some callback })

end Theme
end BatteryIndicator
