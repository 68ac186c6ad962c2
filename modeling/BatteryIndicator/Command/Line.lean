import BatteryIndicator.Failure
/-!
# Line — a command's words on one line

A command line is cut into words at blanks (`split`).  Single quotes keep everything up to the next single quote; double
quotes keep everything but a backslash before a double quote or a backslash; outside quotes a backslash keeps the next
character.  `join` writes words so that cutting gives them back: a word of safe characters stands as it is, any other
between single quotes.
-/
namespace BatteryIndicator
namespace Command

/-! ## Cutting -/

/-- Where the cut stands: between words, in a word, in quotes, or after a backslash. -/
inductive Mode where
  | gap
  | word
  | single
  | double
  | escape
  | escapeInDouble

def isSeparator (c : Char) : Bool := c == ' ' || c == '\t' || c == '\r' || c == '\n'

/-- A character in front of the first word. -/
def push (c : Char) : List (List Char) → List (List Char)
  | [] => [[c]]
  | w :: ws => (c :: w) :: ws

/-- The words of the text; in every mode but `gap` the first of them is the rest of the word begun before. -/
def cut : Mode → List Char → Except Failure (List (List Char))
  | .gap, [] => .ok []
  | .word, [] => .ok [[]]
  | .single, [] => .error .openQuotation
  | .double, [] => .error .openQuotation
  | .escape, [] => .error .openEscape
  | .escapeInDouble, [] => .error .openEscape
  | .gap, c :: s =>
    if isSeparator c then cut .gap s
    else if c = '\\' then cut .escape s
    else if c = '\x27' then cut .single s
    else if c = '\x22' then cut .double s
    else (cut .word s).map (push c)
  | .word, c :: s =>
    if isSeparator c then (cut .gap s).map ([] :: ·)
    else if c = '\\' then cut .escape s
    else if c = '\x27' then cut .single s
    else if c = '\x22' then cut .double s
    else (cut .word s).map (push c)
  | .single, c :: s => if c = '\x27' then cut .word s else (cut .single s).map (push c)
  | .double, c :: s =>
    if c = '\x22' then cut .word s
    else if c = '\\' then cut .escapeInDouble s
    else (cut .double s).map (push c)
  | .escape, c :: s => (cut .word s).map (push c)
  | .escapeInDouble, c :: s =>
    if c = '\x22' || c = '\\' then (cut .double s).map (push c)
    else (cut .double s).map (push '\\' ∘ push c)

/-- The words of a command line. -/
def split (line : String) : Except Failure (List String) :=
  (cut .gap line.toList).map (·.map String.ofList)

/-! ## Writing -/

/-- The characters that need no quotes. -/
def isSafe (c : Char) : Bool := c.isAlphanum || "_@%+=:,./-".toList.contains c

/-- A single quote between single quotes: the quotes close, the quote stands in double quotes, the quotes open again. -/
def keepQuote (c : Char) : List Char := if c = '\x27' then "'\x22'\x22'".toList else [c]

def quoteWord (w : List Char) : List Char :=
  if w.isEmpty then ['\x27', '\x27']
  else if w.all isSafe then w
  else '\x27' :: w.flatMap keepQuote ++ ['\x27']

/-- The words on one line. -/
def joinChars : List (List Char) → List Char
  | [] => []
  | [w] => quoteWord w
  | w :: ws => quoteWord w ++ ' ' :: joinChars ws

def join (argv : List String) : String := String.ofList (joinChars (argv.map String.toList))

/-! ## Both ways to give a command -/

/-- A command as it is given: on one line, or word by word. -/
inductive Form where
  | line (text : String)
  | words (argv : List String)
deriving Inhabited

def Form.argv : Form → Except Failure (List String)
  | .line text => split text
  | .words argv => .ok argv

end Command
end BatteryIndicator
