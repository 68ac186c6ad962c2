import BatteryIndicator.Failure
import BatteryIndicator.Number.Numeral
import BatteryIndicator.Text.Word
/-!
# Line — the lines of a battery report

A status line reads `Battery I: STATE, L%`, perhaps with a comma and details behind it; a capacity line reads
`Battery I: design capacity D U, last full capacity F V` and may go on with anything.  Blanks at the ends of a line do
not count.  The numbers may be written in the digits of any script.  A state is a row of ASCII letters and spaces, an
unfamiliar one means an unknown direction.  Any other line says nothing about a battery.
-/
namespace BatteryIndicator
namespace Report

structure Status where
  index : Nat
  state : Direction
  level : Binary64
  text : String
  detail : Option String
deriving DecidableEq, Inhabited

structure Capacity where
  index : Nat
  design : Nat
  lastFull : Nat
deriving DecidableEq, Inhabited

inductive Line where
  | status (s : Status)
  | capacity (c : Capacity)
  | other (text : String)
deriving DecidableEq, Inhabited

namespace Line

/-! ## Shapes -/

/-- The text after a literal at the front. -/
def after? : List Char → List Char → Option (List Char)
  | [], s => some s
  | _ :: _, [] => none
  | c :: l, d :: s => if c = d then after? l s else none

/-- A row of at least one digit at the front, and the text after it. -/
def number? (s : List Char) : Option (List Nat × List Char) :=
  match Text.digits s with
  | ([], _) => none
  | r => some r

def inState (c : Char) : Bool := c.isAlpha || c == ' '

/-- The parts of a status line, the level as its digits before and after the point. -/
structure StatusShape where
  index : List Nat
  state : List Char
  whole : List Nat
  fraction : List Nat
  detail : Option (List Char)

/-- The fraction of a level: a point and digits, or nothing. -/
def fraction (s : List Char) : List Nat × List Char :=
  match s with
  | '.' :: t =>
    match number? t with
    | some r => r
    | none => ([], s)
  | _ => ([], s)

/-- What follows the percent sign: nothing, or a comma and details on the same line. -/
def detail? : List Char → Option (Option (List Char))
  | [] => some none
  | s => do
    let d ← after? ", ".toList s
    if d.contains '\n' then none else some (some d)

def statusShape? (s : List Char) : Option StatusShape := do
  let (index, s) ← after? "Battery ".toList s >>= number?
  let s ← after? ": ".toList s
  let state := s.takeWhile inState
  if state.isEmpty then none
  let (whole, s) ← after? ", ".toList (s.dropWhile inState) >>= number?
  let (fraction, s) := fraction s
  let detail ← after? ['%'] s >>= detail?
  some ⟨index, state, whole, fraction, detail⟩

/-- A space and a unit made of word characters at the front, and the text after them. -/
def unit? (s : List Char) : Option (List Char) := do
  let s ← after? [' '] s
  if (s.takeWhile Text.isWord).isEmpty then none else some (s.dropWhile Text.isWord)

/-- The digits of the three numbers of a capacity line. -/
def capacityShape? (s : List Char) : Option (List Nat × List Nat × List Nat) := do
  let (index, s) ← after? "Battery ".toList s >>= number?
  let (design, s) ← after? ": design capacity ".toList s >>= number?
  let (lastFull, s) ← (unit? s >>= after? ", last full capacity ".toList) >>= number?
  let _ ← unit? s
  some (index, design, lastFull)

/-! ## Meanings -/

/-- The number that digits write, if they are not too many. -/
def wholeNumber (ds : List Nat) : Except Failure Nat :=
  if Numeral.digitLimit < ds.length then .error (.numeralTooLong ds.length) else .ok (Text.ofDigits ds)

/-- The direction that a state means, in any case and with spaces around it. -/
def direction (state : List Char) : Direction :=
  let word := Text.lower (Text.trim state)
  if word = "charging".toList then .charging
  else if word = "discharging".toList then .discharging
  else if word = "full".toList then .full
  else .unknown

/-- The line that a text without blanks at its ends is. -/
def ofTrimmed (s : List Char) : Except Failure Line :=
  match statusShape? s, capacityShape? s with
  | some t, _ => do
    let index ← wholeNumber t.index
    let level := .ofDecimal false (Text.ofDigits (t.whole ++ t.fraction)) (-(t.fraction.length : Int))
    .ok (.status ⟨index, direction t.state, level, String.ofList s, t.detail.map String.ofList⟩)
  | none, some (index, design, lastFull) => do
    let index ← wholeNumber index
    let design ← wholeNumber design
    let lastFull ← wholeNumber lastFull
    .ok (.capacity ⟨index, design, lastFull⟩)
  | none, none => .ok (.other (String.ofList s))

def classify (text : String) : Except Failure Line := ofTrimmed (Text.trim text.toList)

end Line
end Report
end BatteryIndicator
