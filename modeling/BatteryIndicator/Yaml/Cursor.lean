/-!
# Cursor — a place in the text of a document

A cursor is the text that is still to be read, with the line, the column and the number of characters before it.  A line
ends at a line feed, a carriage return, both, the next line character or one of the two Unicode separators.
-/
namespace BatteryIndicator
namespace Yaml

structure Cursor where
  rest : List Char
  line : Nat
  column : Nat
  index : Nat

def isBreak (c : Char) : Bool :=
  c == '\n' || c == '\r' || c == '\x85' || c == '\u2028' || c == '\u2029'

/-- At the end of the text or of a line. -/
def endsLine : Option Char → Bool
  | none => true
  | some c => isBreak c

/-- At the end of the text or of a line, or at a space or tab. -/
def endsWord : Option Char → Bool
  | none => true
  | some c => isBreak c || c == ' ' || c == '\t'

/-- The mark that may stand at the start of a text. -/
def byteOrderMark : Char := '\ufeff'

namespace Cursor

def start (text : List Char) : Cursor := ⟨text, 0, 0, 0⟩

def peek (k : Nat) (c : Cursor) : Option Char := c.rest[k]?

def head (c : Cursor) : Option Char := c.rest.head?

def sees (ch : Char) (c : Cursor) : Bool := c.head == some ch

/-- Whether the next character is one of these. -/
def seesOneOf (s : String) (c : Cursor) : Bool :=
  match c.head with
  | some ch => s.toList.contains ch
  | none => false

/-- Past one character. -/
def next (c : Cursor) : Cursor :=
  match c.rest with
  | [] => c
  | ch :: rest =>
    if isBreak ch && !(ch == '\r' && rest.head? == some '\n') then ⟨rest, c.line + 1, 0, c.index + 1⟩
    else ⟨rest, c.line, if ch = byteOrderMark then c.column else c.column + 1, c.index + 1⟩

def advance : Nat → Cursor → Cursor
  | 0, c => c
  | n + 1, c => advance n c.next

/-- The characters at the front that satisfy a test, and the place after them. -/
def takeWhile (p : Char → Bool) (c : Cursor) : List Char × Cursor :=
  let s := c.rest.takeWhile p
  (s, c.advance s.length)

/-- A line end: what it stands for in a scalar, and the place after it. -/
def lineBreak? (c : Cursor) : Option (Char × Cursor) :=
  match c.rest with
  | '\r' :: '\n' :: _ => some ('\n', c.advance 2)
  | ch :: _ =>
    if ch = '\u2028' || ch = '\u2029' then some (ch, c.next)
    else if isBreak ch then some ('\n', c.next)
    else none
  | [] => none

/-- Whether three of one character stand here, and then a blank or the end. -/
def marks (ch : Char) (c : Cursor) : Bool :=
  c.rest.take 3 == [ch, ch, ch] && endsWord (c.peek 3)

/-- Whether a mark between documents stands here. -/
def separates (c : Cursor) : Bool := c.marks '-' || c.marks '.'

/-- To the end of the line. -/
def skipLine (c : Cursor) : Cursor := (c.takeWhile fun ch => !isBreak ch).2

end Cursor
end Yaml
end BatteryIndicator
