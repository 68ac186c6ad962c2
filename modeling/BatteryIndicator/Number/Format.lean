import BatteryIndicator.Number.Decimal
/-!
# Format — how numbers are written

`plain` writes the fewest digits that read back and keeps a point: `75.0`, `1e-07`, `1e+16`.  `general` writes six
significant digits without trailing zeros: `75`, `0.45`, `1e+06`.  `fixed` writes a number of places: `75.0`.  The three
share the words for infinity and for what is not a number, and a minus sign in front of every negative number, zero
among them.
-/
namespace BatteryIndicator
namespace Number

/-- Where positional notation ends, and whether a whole number keeps its point. -/
structure Layout where
  /-- the least exponent of the leading digit that is written positionally -/
  least : Int
  /-- the first exponent of the leading digit that is not -/
  beyond : Int
  keepPoint : Bool

/-- Readable numbers: positional from `0.0001` up to `10^16`, and always with a point there. -/
def plainLayout : Layout := ⟨-4, 16, true⟩

/-- Six significant digits: positional from `0.0001` up to `10^6`, without a bare point. -/
def generalLayout : Layout := ⟨-4, 6, false⟩

def zeros (n : Nat) : List Char := List.replicate n '0'

/-- The exponent has a sign and at least two digits. -/
def exponentChars (x : Int) : List Char :=
  let ds := Nat.toDigits 10 x.natAbs
  (if x < 0 then '-' else '+') :: zeros (2 - ds.length) ++ ds

/-- The digits `ds` with the leading one at `10 ^ x`. -/
def Layout.write (l : Layout) (ds : List Char) (x : Int) : List Char :=
  if l.least ≤ x ∧ x < l.beyond then
    if 0 ≤ x then
      let whole := x.toNat + 1
      if ds.length ≤ whole then ds ++ zeros (whole - ds.length) ++ (if l.keepPoint then ['.', '0'] else [])
      else ds.take whole ++ '.' :: ds.drop whole
    else '0' :: '.' :: zeros ((-x).toNat - 1) ++ ds
  else
    ds.take 1 ++ (if ds.length ≤ 1 then [] else '.' :: ds.drop 1) ++ 'e' :: exponentChars x

/-- A decimal in a layout, its trailing zeros left out. -/
def Layout.decimal (l : Layout) (d : Decimal) : List Char :=
  let s := d.strip
  let ds := Nat.toDigits 10 s.digits
  l.write ds (s.exponent + ds.length - 1)

/-- The sign, and the words for the values that have no digits. -/
def signedChars (x : Binary64) (finite : Nat → List Char) : List Char :=
  match x with
  | .notANumber => ['n', 'a', 'n']
  | .signed negative k =>
    (if negative then ['-'] else []) ++ (if k.val = Binary64.top then ['i', 'n', 'f'] else finite k)

/-- The fewest digits that read back as the same number. -/
def plain (x : Binary64) : String :=
  String.ofList <| signedChars x fun k => plainLayout.decimal (if k = 0 then ⟨0, 0⟩ else Decimal.shortest k)

/-- Six significant digits. -/
def general (x : Binary64) : String :=
  String.ofList <| signedChars x fun k =>
    generalLayout.decimal (if k = 0 then ⟨0, 0⟩ else Decimal.significant 6 (Binary64.units k) (Nat.pow 2 1074))

/-- A number of places after the point; no point when there are none. -/
def fixed (places : Nat) (x : Binary64) : String :=
  String.ofList <| signedChars x fun k =>
    let ds := Nat.toDigits 10 (Decimal.places places (Binary64.units k) (Nat.pow 2 1074))
    let all := zeros (places + 1 - ds.length) ++ ds
    let whole := all.length - places
    all.take whole ++ (if places = 0 then [] else '.' :: all.drop whole)

end Number
end BatteryIndicator
