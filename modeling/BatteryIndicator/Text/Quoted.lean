import BatteryIndicator.Text.Printable
/-!
# Quoted — text between quotes, on one printable line

A text is quoted with single quotes, or with double quotes when it holds a single quote and no double quote.  Inside,
the backslash and the quote in use are escaped by a backslash; the tab, the line feed and the carriage return are
written `\t`, `\n`, `\r`; any other unprintable character is written by its code point in two, four or eight
hexadecimal digits.
-/
namespace BatteryIndicator
namespace Text

/-- The lowest `width` hexadecimal digits of a number. -/
def hexDigits : Nat → Nat → List Char
  | 0, _ => []
  | width + 1, n => hexDigits width (n / 16) ++ [Nat.digitChar (n % 16)]

/-- One character inside the quotes. -/
def escape (quote c : Char) : List Char :=
  if c = quote || c = '\\' then ['\\', c]
  else if c = '\t' then ['\\', 't']
  else if c = '\n' then ['\\', 'n']
  else if c = '\r' then ['\\', 'r']
  else if isPrintable c then [c]
  else if c.toNat < 0x100 then '\\' :: 'x' :: hexDigits 2 c.toNat
  else if c.toNat < 0x10000 then '\\' :: 'u' :: hexDigits 4 c.toNat
  else '\\' :: 'U' :: hexDigits 8 c.toNat

/-- Single quotes, unless the text holds one and no double quote. -/
def quoteFor (s : List Char) : Char :=
  if s.contains '\x27' && !s.contains '\x22' then '\x22' else '\x27'

def quotedChars (s : List Char) : List Char :=
  quoteFor s :: s.flatMap (escape (quoteFor s)) ++ [quoteFor s]

/-- The text between quotes. -/
def quoted (s : String) : String := String.ofList (quotedChars s.toList)

end Text
end BatteryIndicator
