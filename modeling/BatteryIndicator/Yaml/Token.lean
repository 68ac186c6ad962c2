import BatteryIndicator.Number.Numeral
import BatteryIndicator.Yaml.Scalar
/-!
# Token — the signs and words of a document

A document is a row of tokens: its marks and directives, the signs of block and flow collections, anchors, tags and
scalars.  Here are the tokens and the readers of those that are words of their own; `TokenStream` finds where each
stands.
-/
namespace BatteryIndicator
namespace Yaml

inductive Token where
  | version (major : Nat)
  /-- a handle, and the text that it stands for at the front of a tag -/
  | tagHandle (handle text : String)
  | otherDirective
  | documentStart
  | documentEnd
  | blockSequenceStart
  | blockMappingStart
  | blockEnd
  | flowSequenceStart
  | flowSequenceEnd
  | flowMappingStart
  | flowMappingEnd
  | blockEntry
  | flowEntry
  | key
  | value
  | alias (name : String)
  | anchor (name : String)
  | tag (handle : Option String) (text : String)
  | scalar (plain : Bool) (s : Scalar)
deriving DecidableEq, Inhabited

/-! ## Names -/

def inName (c : Char) : Bool := c.isAlphanum || c == '-' || c == '_'

/-- A name of at least one character. -/
def name? (c : Cursor) : Option (String × Cursor) :=
  match c.takeWhile inName with
  | ([], _) => none
  | (s, c) => some (String.ofList s, c)

/-- The name of an anchor or an alias, after its sign. -/
def anchorName? (c : Cursor) : Option (String × Cursor) := do
  let (name, c) ← name? c
  if endsWord c.head || c.seesOneOf "?:,]\x7d%@`" then some (name, c) else none

/-! ## Tags -/

/-- At the end of the text or of a line, or at a space. -/
def endsTag (c : Option Char) : Bool := endsLine c || c == some ' '

def inTag (c : Char) : Bool := c.isAlphanum || "-;/?:@&=+$,_.!~*'()[]".toList.contains c

/-- The bytes of the text of a tag, in which a percent sign and two hexadecimal digits write a byte, and the number of
characters they are written with. -/
def tagBytes? : List Char → Option (List UInt8 × Nat)
  | '%' :: a :: b :: s =>
    if isHex a && isHex b then
      (tagBytes? s).map fun r => ((16 * hexValue a + hexValue b).toUInt8 :: r.1, r.2 + 3)
    else none
  | c :: s =>
    if c = '%' then none
    else if inTag c then (tagBytes? s).map fun r => (c.toNat.toUInt8 :: r.1, r.2 + 1)
    else some ([], 0)
  | [] => some ([], 0)

/-- The text of a tag, which is not empty. -/
def tagText? (c : Cursor) : Option (String × Cursor) := do
  let (bytes, length) ← tagBytes? c.rest
  if length = 0 then none
  let text ← String.fromUTF8? ⟨bytes.toArray⟩
  some (text, c.advance length)

/-- The handle of a tag: an exclamation mark alone, or a name between two. -/
def tagHandle? (c : Cursor) : Option (String × Cursor) :=
  if !c.sees '!' then none
  else if c.peek 1 == some ' ' then some ("!", c.next)
  else
    let (name, c) := c.next.takeWhile inName
    if c.sees '!' then some ("!" ++ String.ofList name ++ "!", c.next) else none

/-- A tag, at its exclamation mark. -/
def tag? (c : Cursor) : Option (Token × Cursor) := do
  let (t, c) ←
    if c.peek 1 == some '<' then do
      let (text, c) ← tagText? (c.advance 2)
      if c.sees '>' then some (Token.tag none text, c.next) else none
    else if endsWord (c.peek 1) then some (Token.tag none "!", c.next)
    else do
      let word := (c.next.takeWhile fun d => !endsTag (some d)).1
      let (handle, c) ← if word.contains '!' then tagHandle? c else some ("!", c.next)
      let (text, c) ← tagText? c
      some (Token.tag (some handle) text, c)
  if endsTag c.head then some (t, c) else none

/-! ## Directives -/

def skipSpaces (c : Cursor) : Cursor := (c.takeWhile (· == ' ')).2

/-- A row of at least one digit, as a number. -/
def directiveNumber? (c : Cursor) : Option (Nat × Cursor) :=
  match c.takeWhile Char.isDigit with
  | ([], _) => none
  | (ds, c) => if Numeral.digitLimit < ds.length then none else some (Text.ofDigits (ds.map hexValue), c)

/-- What a directive of this name says. -/
def directiveValue? (name : String) (c : Cursor) : Option (Token × Cursor) := do
  if name = "YAML" then
    let (major, c) ← directiveNumber? (skipSpaces c)
    if !c.sees '.' then none
    let (_, c) ← directiveNumber? c.next
    if endsTag c.head then some (.version major, c) else none
  else if name = "TAG" then
    let (handle, c) ← tagHandle? (skipSpaces c)
    if !c.sees ' ' then none
    let (text, c) ← tagText? (skipSpaces c)
    if endsTag c.head then some (.tagHandle handle text, c) else none
  else some (.otherDirective, c.skipLine)

/-- A directive, after its percent sign, to the end of its line. -/
def directive? (c : Cursor) : Option (Token × Cursor) := do
  let (name, c) ← name? c
  if !endsTag c.head then none
  let (t, c) ← directiveValue? name c
  let c := skipSpaces c
  let c := if c.sees '#' then c.skipLine else c
  if endsLine c.head then some (t, (c.lineBreak?.map Prod.snd).getD c) else none

end Yaml
end BatteryIndicator
