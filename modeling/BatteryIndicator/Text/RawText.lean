import BatteryIndicator.Text.Encoding
import BatteryIndicator.Text.Quoted
/-!
# RawText — texts with halves of surrogate pairs

A code point is a character, or half of a surrogate pair, which is none.  A raw text may have such halves: an escape of a
document can write one.  UTF-8 has no bytes for a half, so only a whole text, which has none, can be written.  Where text
is shown all the same a half is escaped.  In the name of a file, 128 of the halves stand for the bytes beyond ASCII that
are part of no character.
-/
namespace BatteryIndicator

inductive CodePoint where
  | char (c : Char)
  /-- half of a surrogate pair, counted from the first one -/
  | half (n : Fin 0x800)
deriving DecidableEq, Inhabited

namespace CodePoint

def ofCode? (code : Nat) : Option CodePoint :=
  if h : code.isValidChar then some (.char (Char.ofNatAux code h))
  else if h : 0xd800 ≤ code ∧ code < 0xe000 then some (.half ⟨code - 0xd800, by omega⟩)
  else none

def isChar : CodePoint → Bool
  | char _ => true
  | half _ => false

/-- A half as it is shown: by its code in four hexadecimal digits. -/
def escapedHalf (n : Fin 0x800) : List Char := '\\' :: 'u' :: Text.hexDigits 4 (0xd800 + n)

def escaped : CodePoint → List Char
  | char c => [c]
  | half n => escapedHalf n

/-- The character, or one that stands for a half. -/
def replaced : CodePoint → Char
  | char c => c
  | half _ => '\ufffd'

/-- Whether it may stand in a path.  A half stands for a byte beyond ASCII or for nothing. -/
def isPathPart : CodePoint → Bool
  | char c => c != '\x00'
  | half n => 0x480 ≤ n.val && n.val < 0x500

/-- The bytes that it stands for in a path. -/
def bytes : CodePoint → List UInt8
  | char c => String.utf8EncodeChar c
  | half n => [UInt8.ofNat n.val]

end CodePoint

abbrev RawText := List CodePoint

namespace RawText

def ofString (s : String) : RawText := s.toList.map .char

instance : Coe String RawText := ⟨ofString⟩

def isWhole (s : RawText) : Bool := s.all CodePoint.isChar

def escaped (s : RawText) : String := String.ofList (s.flatMap CodePoint.escaped)

/-- The text of a raw text without halves. -/
def whole? (s : RawText) : Option String := if s.isWhole then some s.escaped else none

/-- The raw text between quotes. -/
def quoted (s : RawText) : String :=
  let quote := Text.quoteFor (s.map CodePoint.replaced)
  String.ofList (quote :: s.flatMap (fun
    | .char c => Text.escape quote c
    | .half n => CodePoint.escapedHalf n) ++ [quote])

/-- The first halves that stand together, and the number of characters before them. -/
def firstHalves (s : RawText) : Nat × RawText :=
  let before := s.takeWhile CodePoint.isChar
  (before.length, (s.drop before.length).takeWhile fun c => !c.isChar)

/-- The number of bytes in a path. -/
def size (s : RawText) : Nat := (s.flatMap CodePoint.bytes).length

/-- The name that a component of a path is, unless its bytes are none. -/
def name? (s : RawText) : Option String := s.whole?.or (Text.ofBytes? (s.flatMap CodePoint.bytes))

/-! ## Whole texts -/

@[simp] theorem isWhole_ofString (s : String) : (ofString s).isWhole = true := by
  simp [ofString, isWhole, CodePoint.isChar]

@[simp] theorem escaped_ofString (s : String) : (ofString s).escaped = s := by
  simp [ofString, escaped, List.flatMap_map, CodePoint.escaped]

theorem ofString_append (s t : String) : ofString (s ++ t) = ofString s ++ ofString t := by
  simp [ofString]

theorem escaped_append (s t : RawText) : escaped (s ++ t) = s.escaped ++ t.escaped := by
  simp [escaped]

/-- A raw text without halves is the text that it is shown as. -/
theorem ofString_escaped : ∀ {s : RawText}, s.isWhole = true → ofString s.escaped = s
  | [], _ => rfl
  | .char c :: s, h => by
    have hrest : ofString (escaped s) = s := ofString_escaped h
    have hfirst : escaped (.char c :: s) = String.ofList [c] ++ escaped s := escaped_append [.char c] s
    rw [hfirst, ofString_append, hrest, ofString, String.toList_ofList]
    rfl

theorem whole?_ofString (s : String) : (ofString s).whole? = some s := by
  rw [whole?, if_pos (isWhole_ofString s), escaped_ofString]

theorem whole?_of_half {n : Fin 0x800} {s : RawText} (h : CodePoint.half n ∈ s) : s.whole? = none :=
  if_neg fun hwhole => by cases List.all_eq_true.1 hwhole _ h

end RawText
end BatteryIndicator
