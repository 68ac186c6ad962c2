/-!
# Base64 — bytes written with 64 signs

Four signs write three bytes.  A sign that is none of the 64 is passed over, and so is padding where none can stand; what
comes after full padding does not count.  A text that ends within a group of four is malformed.
-/
namespace BatteryIndicator
namespace Text
namespace Base64

def signs : List Char := "ABCDEFGHIJKLMNOPQRSTUVWXYZabcdefghijklmnopqrstuvwxyz0123456789+/".toList

/-- The six bits that a sign writes. -/
def bits? (c : Char) : Option Nat := signs.findIdx? (· == c)

/-- The bytes of a text.  `place` is the number of signs of the group before it, `left` their bits that are not in a byte
yet, and `pads` the number of padding signs just before it. -/
def decodeFrom : (place left pads : Nat) → List Char → Option (List UInt8)
  | place, _, _, [] => if place = 0 then some [] else none
  | place, left, pads, c :: s =>
    if c = '=' then
      if place < 2 then decodeFrom place left pads s
      else if 4 ≤ place + pads + 1 then some []
      else decodeFrom place left (pads + 1) s
    else
      match bits? c with
      | none => decodeFrom place left pads s
      | some b =>
        match place with
        | 0 => decodeFrom 1 b 0 s
        | 1 => (decodeFrom 2 (b % 16) 0 s).map ((4 * left + b / 16).toUInt8 :: ·)
        | 2 => (decodeFrom 3 (b % 4) 0 s).map ((16 * left + b / 4).toUInt8 :: ·)
        | _ => (decodeFrom 0 0 0 s).map ((64 * left + b).toUInt8 :: ·)

def decode? (s : List Char) : Option (List UInt8) := decodeFrom 0 0 0 s

end Base64
end Text
end BatteryIndicator
