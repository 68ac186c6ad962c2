import BatteryIndicator.Entries
import BatteryIndicator.Report.Line
import BatteryIndicator.Text.Lines
/-!
# Reading — what a battery report says about the whole system

The last status line of each battery counts, and the last capacity line.  The level of the system is the mean of the
levels, weighted by the last full capacities; without any capacity it is the plain mean.  Any discharging battery makes
the system discharge, otherwise any charging one makes it charge; if all are full it is full.  A report without a status
line is no reading.
-/
namespace BatteryIndicator

structure Reading where
  level : Binary64
  direction : Direction
  lines : List String
deriving DecidableEq, Inhabited

namespace Reading

def charging? (r : Reading) : Option Bool := r.direction.charging?

/-- One line for each battery. -/
def tooltip (r : Reading) : String := String.intercalate "\n" r.lines

end Reading

namespace Report

/-- The direction of the system, from the directions of its batteries. -/
def jointDirection (states : List Direction) : Direction :=
  if .discharging ∈ states then .discharging
  else if .charging ∈ states then .charging
  else if states ≠ [] ∧ ∀ s ∈ states, s = .full then .full
  else .unknown

/-- A level times a capacity. -/
def weighted (level : Binary64) (weight : Int) : Except Failure Binary64 :=
  match Binary64.ofInt? weight with
  | none => .error .numberTooLarge
  | some w => .ok (level.mul w)

/-- The capacity of a battery, `0` if it is not known. -/
def weight (capacities : Entries Int Int) (index : Int) : Int := (capacities.find? index).getD 0

/-- The mean of the levels, weighted by the capacities if these add up to more than nothing. -/
def meanLevel (levels : Entries Int Binary64) (capacities : Entries Int Int) : Except Failure Binary64 :=
  let total := (levels.keys.map (weight capacities)).foldl (· + ·) 0
  if total ≤ 0 then
    if levels.isEmpty then .error .meanOfNothing
    else .ok ((Binary64.sum levels.values).div (.ofInt levels.length))
  else do
    let terms ← levels.mapM fun l => weighted l.2 (weight capacities l.1)
    match Binary64.ofInt? total with
    | none => .error .numberTooLarge
    | some n => .ok ((Binary64.sum terms).div n)

/-- The last status line and the last capacity of each battery so far. -/
structure Batteries where
  statuses : Entries Int Status
  capacities : Entries Int Int
deriving Inhabited

def Batteries.add (b : Batteries) : Line → Batteries
  | .status s => { b with statuses := b.statuses.put s.index s }
  | .capacity c => { b with capacities := b.capacities.put c.index c.lastFull }
  | .other _ => b

/-- The batteries of a report. -/
def batteries (text : String) : Except Failure Batteries :=
  (Text.outputLines text.toList).foldlM (fun b l => (Line.classify (String.ofList l)).map b.add) ⟨[], []⟩

/-- The reading of the batteries, if one of them has a status. -/
def Batteries.reading? (b : Batteries) : Except Failure (Option Reading) :=
  if b.statuses.isEmpty then .ok none
  else do
    let level ← meanLevel (b.statuses.map fun s => (s.1, s.2.level)) b.capacities
    let direction := jointDirection (b.statuses.values.map Status.state)
    let lines := (b.statuses.mergeSort fun s t => s.1 ≤ t.1).map fun s => s.2.text
    .ok (some ⟨level, direction, lines⟩)

/-- The reading of a report. -/
def read (text : String) : Except Failure (Option Reading) := batteries text >>= Batteries.reading?

end Report
end BatteryIndicator
