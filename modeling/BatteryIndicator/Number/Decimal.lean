import BatteryIndicator.Number.Binary64
/-!
# Decimal — the digits of a number

Three ways to choose decimal digits for a magnitude, all in exact arithmetic: the fewest digits that read back as the
same number (`shortest`), a number of significant digits (`significant`), a number of places after the point
(`Binary64.fixed`).  Where two choices are equally near, the even last digit is taken.
-/
namespace BatteryIndicator

/-- The number `digits * 10 ^ exponent`. -/
structure Decimal where
  digits : Nat
  exponent : Int
deriving DecidableEq, Inhabited

namespace Decimal

/-- The count of decimal digits of a number; `0` has one. -/
def digitCount (n : Nat) : Nat := (Nat.toDigits 10 n).length

/-- The exponent of the leading digit of `n / d`: the largest `x` with `10 ^ x ≤ n / d`. -/
def leading (n d : Nat) : Int :=
  if d ≤ n then (digitCount (n / d) : Int) - 1
  else -(digitCount ((d + n - 1) / n - 1) : Int)

/-- `n / d` in multiples of `10 ^ p`, as a quotient of two whole numbers. -/
def scaled (n d : Nat) (p : Int) : Nat × Nat :=
  if 0 ≤ p then (n, d * Nat.pow 10 p.toNat) else (n * Nat.pow 10 (-p).toNat, d)

/-! ## The fewest digits -/

/-- Whether `c * 10 ^ p` reads back as the magnitude at `place`: it lies between the midpoints to the two neighbours,
or on one of them when the place is even. -/
def readsBack (place : Nat) (c : Nat) (p : Int) : Bool :=
  let low := Binary64.units (place - 1) + Binary64.units place
  let high := Binary64.units place + Binary64.units (place + 1)
  let value := if 0 ≤ p then c * Nat.pow 10 p.toNat * Nat.pow 2 1075 else c * Nat.pow 2 1075
  let unit := if 0 ≤ p then 1 else Nat.pow 10 (-p).toNat
  if place % 2 = 0 then decide (low * unit ≤ value) && decide (value ≤ high * unit)
  else decide (low * unit < value) && decide (value < high * unit)

/-- The multiple of `10 ^ p` that reads back as the magnitude at `place`, the nearer one of two. -/
def onGrid? (place : Nat) (p : Int) : Option Nat :=
  let q := scaled (Binary64.units place) (Nat.pow 2 1074) p
  let below := q.1 / q.2
  let near := Binary64.halfEven q.1 q.2
  if readsBack place near p then some near
  else if readsBack place below p then some below
  else if readsBack place (below + 1) p then some (below + 1)
  else none

/-- The exact value of the magnitude at a place. -/
def exact (place : Nat) : Decimal := ⟨Binary64.units place * Nat.pow 5 1074, -1074⟩

/-- The decimal on the coarsest grid that reads back as the magnitude at `place`; a grid of 17 digits always holds
one. -/
def shortest (place : Nat) : Decimal :=
  let x := leading (Binary64.units place) (Nat.pow 2 1074)
  ((List.range 20).findSome? fun (i : Nat) => (onGrid? place (x + 1 - i)).map fun c => ⟨c, x + 1 - i⟩).getD (exact place)

/-! ## A number of digits -/

/-- `n / d` rounded to `count` significant digits. -/
def significant (count : Nat) (n d : Nat) : Decimal :=
  let p := leading n d + 1 - count
  let q := scaled n d p
  let c := Binary64.halfEven q.1 q.2
  if c = Nat.pow 10 count then ⟨c / 10, p + 1⟩ else ⟨c, p⟩

/-- `n / d` in units of the last of `places` places. -/
def places (places : Nat) (n d : Nat) : Nat := Binary64.halfEven (n * Nat.pow 10 places) d

/-- The same number without trailing zeros among its digits. -/
def strip (x : Decimal) : Decimal :=
  let ds := (Nat.toDigits 10 x.digits).reverse
  let k := (ds.takeWhile (· == '0')).length
  if x.digits = 0 then ⟨0, 0⟩ else ⟨x.digits / Nat.pow 10 k, x.exponent + k⟩

end Decimal
end BatteryIndicator
