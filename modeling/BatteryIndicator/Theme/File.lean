import BatteryIndicator.Step.Definition
import BatteryIndicator.Theme.Line
import BatteryIndicator.Theme.Registry
/-!
# File — the themes of a theme file

A theme file holds one block for each theme, opened by a header.  A block ends, and its theme is complete, at the next
header or at the end of the file.  Lines that make no sense are noted as problems and change nothing; a step set that
does not have the declared number of steps ends the reading, and the block it stands in is lost; so does a failure to
read on in the file.
-/
namespace BatteryIndicator

/-- Why a line of a theme file was ignored. -/
inductive LineFault where
  | unrecognized
  | outsideBlock
  | countNotInteger
  | countNotPositive
  | unknownKey (key : String)
deriving DecidableEq, Inhabited

namespace LineFault

def reason : LineFault → String
  | .unrecognized => "unrecognized line"
  | .outsideBlock => "outside of a theme block"
  | .countNotInteger => "steps must be an integer"
  | .countNotPositive => "steps must be positive"
  | .unknownKey key => "unknown key " ++ Text.quoted key

end LineFault

/-- A line of a theme file that was ignored. -/
structure IgnoredLine where
  number : Nat
  text : String
  fault : LineFault
  source : String
deriving DecidableEq, Inhabited

namespace IgnoredLine

def message (l : IgnoredLine) : String :=
  l.source ++ ":" ++ toString l.number ++ ": unparseable line " ++ Text.quoted l.text ++ " (" ++ l.fault.reason ++ ")"

end IgnoredLine

/-- Something in a theme file that could not be used. -/
inductive Problem where
  | entry (e : DroppedEntry)
  | line (l : IgnoredLine)
deriving DecidableEq, Inhabited

namespace Problem

def message : Problem → String
  | .entry e => e.message
  | .line l => l.message

/-- Every problem is logged as a warning when it is found. -/
def effect (p : Problem) : Effect := .warning p.message

end Problem

namespace Theme

/-! ## One line in a block -/

/-- What a key and a value do to the theme of their block. -/
inductive Change where
  /-- the theme is changed; entries of a step set may have been dropped on the way -/
  | made (theme : Theme Step) (dropped : List DroppedEntry)
  /-- the line is ignored -/
  | ignored (fault : LineFault)
  /-- the reading ends -/
  | refused (failure : Failure) (dropped : List DroppedEntry)

/-- The declaration of the number of steps. -/
def declareCount (value : String) (t : Theme Step) : Change :=
  match Numeral.int? value.toList with
  | none => .ignored .countNotInteger
  | some n =>
    match t.setStepCount n with
    | .ok t => .made t []
    | .error _ => .ignored .countNotPositive

/-- The definition of the step set of a direction. -/
def defineSteps (d : Direction) (value : String) (t : Theme Step) : Change :=
  match Step.Definition.read value (t.stepCount.getD 0) with
  | .error f => .refused f []
  | .ok r =>
    match t.setSteps d r.steps with
    | .ok t => .made t r.dropped
    | .error f => .refused f r.dropped

def apply (key value : String) (t : Theme Step) : Change :=
  if key = "steps" then t.declareCount value
  else if key = "dir" then .made (t.setDirectory (.ofString value)) []
  else if key = "charging" then t.defineSteps .charging value
  else if key = "discharging" then t.defineSteps .discharging value
  else .ignored (.unknownKey key)

namespace File

/-! ## The lines in order -/

/-- How far a reading has come: the complete themes, the block that is open, and the problems so far. -/
structure Progress where
  complete : List (String × Theme Step)
  open? : Option (String × Theme Step)
  problems : List Problem
deriving Inhabited

namespace Progress

def start : Progress := ⟨[], none, []⟩

/-- Completes the open block. -/
def close (p : Progress) : Progress := { p with complete := p.complete ++ p.open?.toList, open? := none }

/-- Opens a block for a theme that has only the directory it starts with. -/
def enter (name : String) (directory : Path) (p : Progress) : Progress :=
  { p.close with open? := some (name, .new directory) }

def note (problems : List Problem) (p : Progress) : Progress := { p with problems := p.problems ++ problems }

end Progress

/-- Where a theme file comes from, for its problems, and the directory its themes start with. -/
structure Origin where
  source : String
  directory : Path
deriving Inhabited

/-- One line.  A failure comes with the progress up to it. -/
def step (origin : Origin) (number : Nat) (text : String) (p : Progress) : Except (Failure × Progress) Progress :=
  let ignore (text : String) (fault : LineFault) : Progress :=
    p.note [.line ⟨number, text, fault, origin.source⟩]
  match Line.classify text with
  | .blank | .comment _ => .ok p
  | .header name => .ok (p.enter name origin.directory)
  | .unrecognized text => .ok (ignore text .unrecognized)
  | .pair key value =>
    let trimmed := String.ofList (Text.trim text.toList)
    match p.open? with
    | none => .ok (ignore trimmed .outsideBlock)
    | some (name, t) =>
      match t.apply key value with
      | .made t dropped => .ok { p.note (dropped.map .entry) with open? := some (name, t) }
      | .ignored fault => .ok (ignore trimmed fault)
      | .refused f dropped => .error (f, p.note (dropped.map .entry))

/-- What was read of a theme file: its complete themes in order, its problems, and the name of its last theme or the
failure that ended the reading. -/
structure Reading where
  themes : List (String × Theme Step)
  problems : List Problem
  result : Except Failure (Option String)

/-- The reading after the last line. -/
def finish (p : Progress) : Reading := ⟨p.close.complete, p.problems, .ok (p.open?.map Prod.fst)⟩

/-- The reading that a failure ends: the open block is lost. -/
def breakOff (f : Failure) (p : Progress) : Reading := ⟨p.complete, p.problems, .error f⟩

/-- The reading of the lines from a number on, and of what comes after them. -/
def readFrom (origin : Origin) (after : Progress → Reading) : Nat → List String → Progress → Reading
  | _, [], p => after p
  | n, text :: rest, p =>
    match step origin n text p with
    | .ok p => readFrom origin after (n + 1) rest p
    | .error (f, p) => breakOff f p

/-- The reading of the lines of a theme file. -/
def read (origin : Origin) (lines : List String) : Reading := readFrom origin finish 1 lines .start

/-- The reading of lines after which a failure comes. -/
def readUpTo (origin : Origin) (f : Failure) (lines : List String) : Reading :=
  readFrom origin (breakOff f) 1 lines .start

end File
end Theme
end BatteryIndicator
