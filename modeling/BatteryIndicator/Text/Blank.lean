import BatteryIndicator.Text.Ranges
/-!
# Blank — white space, and text without it at the ends

A blank is a character of the Unicode separator classes `Zs`, `Zl`, `Zp` or of the bidirectional classes `WS`, `B`, `S`:
the tab to the carriage return, the four information separators, the space and its relatives.  `trim` removes the
blanks at both ends and keeps those inside.  Around a number the information separators do not count as blanks
(`trimMargins`).
-/
namespace BatteryIndicator
namespace Text

def blankRanges : List (Nat × Nat) :=
  [(0x9, 0xd), (0x1c, 0x20), (0x85, 0x85), (0xa0, 0xa0), (0x1680, 0x1680), (0x2000, 0x200a), (0x2028, 0x2029),
   (0x202f, 0x202f), (0x205f, 0x205f), (0x3000, 0x3000)]

def isBlank (c : Char) : Bool := inRanges blankRanges c

def trimStart (s : List Char) : List Char := s.dropWhile isBlank

def trimEnd (s : List Char) : List Char := (s.reverse.dropWhile isBlank).reverse

/-- The text without the blanks at its two ends. -/
def trim (s : List Char) : List Char := trimEnd (trimStart s)

/-- The blanks that may surround a number: all but the four information separators. -/
def isMargin (c : Char) : Bool := isBlank c && !inRanges [(0x1c, 0x1f)] c

def trimMargins (s : List Char) : List Char := ((s.dropWhile isMargin).reverse.dropWhile isMargin).reverse

end Text
end BatteryIndicator
