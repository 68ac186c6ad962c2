/-!
# Lines — three ways to end a line

A text file ends its lines with `\n`, `\r\n` or `\r`; reading it turns all three into `\n` (`unifyNewlines`) and each
line keeps its end (`fileLines`).  The output of a command is cut at every character that ends a line in Unicode, the
vertical tab and the information separators among them, and the ends are dropped (`outputLines`).
-/
namespace BatteryIndicator
namespace Text

/-- Every line end of a file as a single line feed. -/
def unifyNewlines : List Char → List Char
  | [] => []
  | '\r' :: '\n' :: s => '\n' :: unifyNewlines s
  | '\r' :: s => '\n' :: unifyNewlines s
  | c :: s => c :: unifyNewlines s

/-- The lines of a text, each with the line feed that ends it; the last one may have none, and is not empty. -/
def fileLines : List Char → List (List Char)
  | [] => []
  | c :: s =>
    if c = '\n' then ['\n'] :: fileLines s
    else
      match fileLines s with
      | [] => [[c]]
      | l :: ls => (c :: l) :: ls

/-- A character that ends a line of output. -/
def isLineEnd (c : Char) : Bool :=
  let n := c.toNat
  (decide (0xa ≤ n) && decide (n ≤ 0xd)) || (decide (0x1c ≤ n) && decide (n ≤ 0x1e)) || n == 0x85 ||
    n == 0x2028 || n == 0x2029

/-- The lines of a text without their ends; `\r\n` ends one line, and an end at the very end opens no further line. -/
def outputLines : List Char → List (List Char)
  | [] => []
  | '\r' :: '\n' :: s => [] :: outputLines s
  | c :: s =>
    if isLineEnd c then [] :: outputLines s
    else
      match outputLines s with
      | [] => [[c]]
      | l :: ls => (c :: l) :: ls

end Text
end BatteryIndicator
