import BatteryIndicator.Text.Blank
import BatteryIndicator.Text.LowerCase
import BatteryIndicator.Text.Word
/-!
# Line — the lines of a theme file

Blanks at the ends of a line do not count.  A line that starts with `#` or `;` is a comment; a name in square brackets
opens a block; a key, an equals sign and a value on one line set something in the block.  A key is an ASCII letter or an
underscore, followed by word characters and hyphens, and counts in lower case.  Any other line is unrecognized.
-/
namespace BatteryIndicator
namespace Theme

inductive Line where
  | blank
  | comment (text : String)
  | header (name : String)
  | pair (key value : String)
  | unrecognized (text : String)
deriving DecidableEq, Inhabited

namespace Line

def startsComment (s : List Char) : Bool :=
  match s with
  | c :: _ => c == '#' || c == ';'
  | [] => false

/-- What stands between a square bracket at the start and one at the end, if it is not empty and has no closing bracket
of its own. -/
def bracketed? : List Char → Option (List Char)
  | '[' :: s =>
    let name := s.dropLast
    if s.getLast? = some ']' && !name.isEmpty && !name.contains ']' then some name else none
  | _ => none

def startsKey (c : Char) : Bool := c.isAlpha || c == '_'

def inKey (c : Char) : Bool := Text.isWord c || c == '-'

/-- The key and the value around the first equals sign: only blanks stand between the key and the sign, and the value,
from its first character on, has no line feed. -/
def keyed? : List Char → Option (List Char × List Char)
  | [] => none
  | c :: s =>
    if startsKey c then
      match Text.trimStart (s.dropWhile inKey) with
      | '=' :: v =>
        let value := Text.trimStart v
        if value.contains '\n' then none else some (c :: s.takeWhile inKey, value)
      | _ => none
    else none

/-- The line that a text without blanks at its ends is. -/
def ofTrimmed (s : List Char) : Line :=
  if s.isEmpty then .blank
  else if startsComment s then .comment (String.ofList s)
  else
    match bracketed? s, keyed? s with
    | some name, _ => .header (String.ofList (Text.trim name))
    | none, some (key, value) => .pair (String.ofList (Text.lower key)) (String.ofList (Text.trim value))
    | none, none => .unrecognized (String.ofList s)

/-- The line that a text is, with or without its line end. -/
def classify (text : String) : Line := ofTrimmed (Text.trim text.toList)

end Line
end Theme
end BatteryIndicator
