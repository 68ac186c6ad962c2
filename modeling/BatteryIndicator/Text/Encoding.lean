import BatteryIndicator.Text.Lines
/-!
# Encoding — text from bytes

A file is text in UTF-8.  A file that is read as a whole is a text or none.  A file that is read line by line comes in
pieces of `pieceSize` bytes: the lines in the pieces before a malformed one can be read.  A character that is cut off at
the end of a piece may go on in the next one, so what is cut off at the end of the file is malformed only there.
-/
namespace BatteryIndicator
namespace Text

/-- The text of bytes. -/
def ofBytes? (bs : List UInt8) : Option String := String.fromUTF8? ⟨bs.toArray⟩

/-- The characters at the front of bytes, and the bytes after them.  The first argument bounds their number. -/
def charactersUpTo : Nat → List UInt8 → List Char × List UInt8
  | 0, bs => ([], bs)
  | n + 1, bs =>
    match [1, 2, 3, 4].findSome? fun k => (ofBytes? (bs.take k)).map fun s => (s.toList, bs.drop k) with
    | some (c :: _, rest) =>
      let r := charactersUpTo n rest
      (c :: r.1, r.2)
    | _ => ([], bs)

def characters (bs : List UInt8) : List Char × List UInt8 := charactersUpTo bs.length bs

/-- Whether a byte may be the second one of a character. -/
def isSecond (lead second : UInt8) : Bool :=
  if lead = 0xe0 then 0xa0 ≤ second && second ≤ 0xbf
  else if lead = 0xf0 then 0x90 ≤ second && second ≤ 0xbf
  else if lead = 0xf4 then 0x80 ≤ second && second ≤ 0x8f
  else 0x80 ≤ second && second ≤ 0xbf

/-- Whether a character that starts with these bytes and is cut off after them is looked for in what comes next. -/
def mayGoOn : List UInt8 → Bool
  | [b] => 0xc2 ≤ b && b ≤ 0xf4
  | [b, c] => 0xe0 ≤ b && b ≤ 0xf4 && isSecond b c
  | [b, c, d] => 0xf0 ≤ b && b ≤ 0xf4 && isSecond b c && 0x80 ≤ d && d ≤ 0xbf
  | _ => false

def pieceSize : Nat := 8192

/-- The characters of bytes that are no text, up to the piece that shows it. -/
def readablePart (bs : List UInt8) : List Char :=
  let r := characters bs
  let good := bs.length - r.2.length
  let pieces := good / pieceSize * pieceSize
  if mayGoOn (r.2.take (pieces + pieceSize - good)) then r.1 else (characters (bs.take pieces)).1

/-- A text without a carriage return at its end, which may be half of a line end. -/
def withoutHalfEnd (s : List Char) : List Char := if s.getLast? == some '\r' then s.dropLast else s

/-- The lines of a text that have their ends. -/
def completeLines (s : List Char) : List (List Char) :=
  (fileLines (unifyNewlines (withoutHalfEnd s))).filter fun l => l.getLast? == some '\n'

end Text
end BatteryIndicator
