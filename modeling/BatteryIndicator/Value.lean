import BatteryIndicator.Number.Format
import BatteryIndicator.Text.RawText
/-!
# Value — data without a type of its own

The values that a settings document holds and that a script may pass where a charge direction is expected.  `literal` is
the text that stands for a value in a message.
-/
namespace BatteryIndicator

/-- A day, or a moment in microseconds: one that is the same all over the world, or one on the clocks of some place. -/
inductive Moment where
  | day (number : Nat)
  | universal (microseconds : Int)
  | local (microseconds : Int)
deriving DecidableEq, Inhabited

inductive Value where
  | null
  | flag (b : Bool)
  | integer (z : Int)
  | real (x : Binary64)
  | text (s : String)
  /-- a text that is not whole -/
  | brokenText (s : RawText)
  | bytes (bs : List UInt8)
  | list (vs : List Value)
  /-- values without order and repetition, in the order in which they are met -/
  | set (vs : List Value)
  | mapping (entries : List (Value × Value))
  | moment (m : Moment)
  /-- a value that no setting takes and whose content does not matter -/
  | foreign
deriving Inhabited

namespace Value

mutual

/-- The text that stands for a value in a message. -/
def literal : Value → String
  | .null => "None"
  | .flag true => "True"
  | .flag false => "False"
  | .integer z => toString z
  | .real x => Number.plain x
  | .text s => Text.quoted s
  | .brokenText s => s.quoted
  | .list vs => "[" ++ listLiteral vs ++ "]"
  | .mapping es => "\x7b" ++ entriesLiteral es ++ "\x7d"
  | .bytes _ | .set _ | .moment _ | .foreign => "..."

def listLiteral : List Value → String
  | [] => ""
  | [v] => literal v
  | v :: vs => literal v ++ ", " ++ listLiteral vs

def entriesLiteral : List (Value × Value) → String
  | [] => ""
  | [(k, v)] => literal k ++ ": " ++ literal v
  | (k, v) :: es => literal k ++ ": " ++ literal v ++ ", " ++ entriesLiteral es

end

end Value
end BatteryIndicator
