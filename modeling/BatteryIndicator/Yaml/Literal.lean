import BatteryIndicator.Number.Numeral
import BatteryIndicator.Text.Fields
import BatteryIndicator.Yaml.Date
import BatteryIndicator.Yaml.Tag
/-!
# Literal — what a plain scalar looks like

A plain scalar is a truth value, a number, nothing, or a date if it looks like one, and a text if not.  Whole numbers
may be binary (`0b101`), octal (`017`), hexadecimal (`0x1f`), decimal or sexagesimal (`1:30`); real numbers need a
point, and a sign in the exponent.  Underscores in numbers do not count.  One line feed at the end is passed over.
-/
namespace BatteryIndicator
namespace Yaml
namespace Literal

/-! ## Numbers -/

def isDigitIn (base : Nat) (c : Char) : Bool :=
  if c.isDigit then decide (c.toNat - 48 < base) else base = 16 && (('a' ≤ c && c ≤ 'f') || ('A' ≤ c && c ≤ 'F'))

/-- A text of digits and underscores only. -/
def isRow (base : Nat) (s : List Char) : Bool := s.all fun c => c == '_' || isDigitIn base c

/-- A row that starts with one of these digits. -/
def isDecimal (first : Char → Bool) (s : List Char) : Bool :=
  match s with
  | c :: _ => first c && isRow 10 s
  | [] => false

def isLeading (c : Char) : Bool := c.isDigit && c != '0'

/-- The pieces between colons. -/
def pieces (s : List Char) : List (List Char) := Text.fields ':' s.length s

/-- A number up to 59 in one or two digits. -/
def isSixtieth : List Char → Bool
  | [a] => a.isDigit
  | [a, b] => '0' ≤ a && a ≤ '5' && b.isDigit
  | _ => false

/-- A whole number without its sign. -/
def isMagnitude (s : List Char) : Bool :=
  match s with
  | ['0'] => true
  | '0' :: 'b' :: row => !row.isEmpty && isRow 2 row
  | '0' :: 'x' :: row => !row.isEmpty && isRow 16 row
  | '0' :: row => isRow 8 row
  | _ =>
    match pieces s with
    | [] => false
    | first :: more => isDecimal isLeading first && more.all isSixtieth

def isInteger (s : List Char) : Bool := isMagnitude (Numeral.sign s).2

/-- An exponent, which has a sign, or nothing. -/
def isExponent : List Char → Bool
  | [] => true
  | e :: sign :: ds => (e == 'e' || e == 'E') && (sign == '+' || sign == '-') && !ds.isEmpty && ds.all Char.isDigit
  | _ => false

/-- Digits after a point, and an exponent. -/
def isFraction (s : List Char) : Bool := isExponent (s.dropWhile fun c => c.isDigit || c == '_')

/-- Real numbers with a point, without their sign. -/
def isPointed (signed : Bool) (s : List Char) : Bool :=
  match s with
  | '.' :: c :: _ => !signed && c.isDigit && isFraction s.tail
  | _ =>
    let row := s.takeWhile fun c => c.isDigit || c == '_'
    isDecimal Char.isDigit row &&
      (match s.drop row.length with
      | '.' :: t => isFraction t
      | _ => false)

/-- Sexagesimal numbers with a point, without their sign. -/
def isPointedSixtieths (s : List Char) : Bool :=
  match pieces s with
  | first :: more =>
    match more.reverse with
    | last :: middle =>
      let row := last.takeWhile Char.isDigit
      let pointed := match last.drop row.length with
        | '.' :: t => isRow 10 t
        | _ => false
      isDecimal Char.isDigit first && middle.all isSixtieth && isSixtieth row && pointed
    | [] => false
  | [] => false

def isReal (s : List Char) : Bool :=
  let t := Numeral.sign s
  let signed := decide (t.2.length < s.length)
  [".inf", ".Inf", ".INF"].contains (String.ofList t.2) || [".nan", ".NaN", ".NAN"].contains (String.ofList s) ||
    isPointed signed t.2 || isPointedSixtieths t.2

/-! ## Words -/

/-- The words for truth values, which may also start with a capital or be all capitals. -/
def flagWords : List (String × Bool) :=
  [("yes", true), ("no", false), ("true", true), ("false", false), ("on", true), ("off", false)]

def capitalized : List Char → List Char
  | [] => []
  | c :: s => c.toUpper :: s

/-- A word as it is, with a capital, or in capitals. -/
def spellings (word : String) : List String :=
  [word, String.ofList (capitalized word.toList), String.ofList (word.toList.map Char.toUpper)]

def isFlag (s : String) : Bool := flagWords.any fun w => (spellings w.1).contains s

def isNull (s : String) : Bool := s.isEmpty || s == "~" || (spellings "null").contains s

/-- The words that only mean something as keys, and the signs that are kept for the format itself. -/
def reserved : List (String × Tag) := [("<<", .merge), ("=", .default), ("!", .other), ("&", .other), ("*", .other)]

/-! ## All together -/

/-- A text without the line feed at its end, unless it consists of that alone. -/
def withoutFinalBreak (s : List Char) : List Char :=
  if 1 < s.length && s.getLast? == some '\n' then s.dropLast else s

/-- The tag of a plain scalar. -/
def tagOf (text : String) : Tag :=
  let s := withoutFinalBreak text.toList
  let word := String.ofList s
  if isFlag word then .flag
  else if isReal s then .real
  else if isInteger s then .integer
  else if isNull word then .null
  else if Date.isDate s then .time
  else (reserved.lookup word).getD .text

end Literal
end Yaml
end BatteryIndicator
