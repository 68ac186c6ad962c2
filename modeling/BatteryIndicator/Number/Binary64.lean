/-!
# Binary64 — double precision numbers as places on a grid

The magnitudes of the double precision format, in ascending order, stand on a grid: place `0` is zero, place `1` the
least positive number `2^-1074`, and the last place `top` is infinity.  A number is a sign and a place, or not a number.
The place of a magnitude is its bit pattern, so order is the order of the places, and a number read off its sign and
place is a whole number of units of `2^-1074`.

An operation takes the exact result, a quotient of two whole numbers of units, and rounds it once to the nearest place;
a result halfway between two places goes to the even one (`nearest`).  Division by zero has the answers of the format,
and a caller for whom it is an error looks before.

A large constant stands first in a product: a product is opened along its second factor, so it stays closed as long as
that is not known.
-/
namespace BatteryIndicator

/-- The place of infinity: above every finite magnitude. -/
def Binary64.top : Nat := 2047 * Nat.pow 2 52

/-- A double precision number: a sign and the place of its magnitude, or not a number. -/
inductive Binary64 where
  | notANumber
  | signed (negative : Bool) (place : Fin (Binary64.top + 1))
deriving DecidableEq

namespace Binary64

/-! ## The grid -/

/-- The magnitude at a place, in units of `2^-1074`.  At `top` it is `2^1024`, the bound that infinity stands for. -/
def units (place : Nat) : Nat :=
  if place < Nat.pow 2 52 then place else (Nat.pow 2 52 + place % Nat.pow 2 52) * Nat.pow 2 (place / Nat.pow 2 52 - 1)

/-- `n / d` rounded to the nearest whole number, a half to the even one. -/
def halfEven (n d : Nat) : Nat :=
  if 2 * (n % d) < d then n / d
  else if d < 2 * (n % d) then n / d + 1
  else n / d + n / d % 2

/-- The place nearest to `n / d` units, of two equally near the even one; it may lie beyond `top`. -/
def nearest (n d : Nat) : Nat :=
  let scale := (n / d).log2 - 52
  Nat.pow 2 52 * scale + halfEven n (d * Nat.pow 2 scale)

/-- The number with this sign whose magnitude stands at this place, or infinity from `top` on. -/
def ofPlace (negative : Bool) (place : Nat) : Binary64 :=
  .signed negative ⟨min place top, Nat.lt_succ_of_le (Nat.min_le_right place top)⟩

/-- The number nearest to `n / d` units. -/
def round (negative : Bool) (n d : Nat) : Binary64 := ofPlace negative (nearest n d)

def zero (negative : Bool) : Binary64 := ofPlace negative 0

def infinity (negative : Bool) : Binary64 := ofPlace negative top

/-- The number nearest to a whole number. -/
def ofInt (z : Int) : Binary64 := round (decide (z < 0)) (Nat.pow 2 1074 * z.natAbs) 1

instance (n : Nat) : OfNat Binary64 n := ⟨ofInt n⟩

instance : Inhabited Binary64 := ⟨.notANumber⟩

/-- Whether the number is a real number, neither infinite nor undefined. -/
def isFinite : Binary64 → Bool
  | .notANumber => false
  | .signed _ k => decide (k.val < top)

def isNaN : Binary64 → Bool
  | .notANumber => true
  | .signed .. => false

/-- The number nearest to a whole number, if that is finite. -/
def ofInt? (z : Int) : Option Binary64 := if (ofInt z).isFinite then some (ofInt z) else none

/-- The whole number that a number is, if it is one. -/
def toInt? : Binary64 → Option Int
  | .notANumber => none
  | .signed negative k =>
    let n : Nat := units k / Nat.pow 2 1074
    if k.val = top ∨ units k % Nat.pow 2 1074 ≠ 0 then none else some (if negative then -(n : Int) else n)

/-! ## Order

Both zeros have the rank `0`; what is not a number has no rank, so every comparison with it is false. -/

/-- The place with its sign. -/
def rank : Binary64 → Option Int
  | .notANumber => none
  | .signed negative k => some (if negative then -(k.val : Int) else k.val)

/-- Compares two ranks; false when one is missing. -/
def compareBy (r : Int → Int → Bool) (x y : Binary64) : Bool :=
  match x.rank, y.rank with
  | some i, some j => r i j
  | _, _ => false

def lt (x y : Binary64) : Bool := compareBy (fun i j => decide (i < j)) x y

def le (x y : Binary64) : Bool := compareBy (fun i j => decide (i ≤ j)) x y

/-- Equality of the numbers, not of the values of this type: the two zeros are equal. -/
def equal (x y : Binary64) : Bool := compareBy (fun i j => decide (i = j)) x y

instance : LT Binary64 := ⟨fun x y => x.lt y = true⟩
instance : LE Binary64 := ⟨fun x y => x.le y = true⟩
instance (x y : Binary64) : Decidable (x < y) := inferInstanceAs (Decidable (x.lt y = true))
instance (x y : Binary64) : Decidable (x ≤ y) := inferInstanceAs (Decidable (x.le y = true))

/-! ## Arithmetic -/

/-- The units of a magnitude with its sign. -/
def signedUnits (negative : Bool) (place : Nat) : Int := if negative then -(units place : Int) else units place

/-- A sum of zero is negative only when both terms are. -/
def add : Binary64 → Binary64 → Binary64
  | .signed a i, .signed b j =>
    if i.val = top then
      if j.val = top && a != b then .notANumber else infinity a
    else if j.val = top then infinity b
    else
      let s := signedUnits a i + signedUnits b j
      if s = 0 then zero (a && b) else round (decide (s < 0)) s.natAbs 1
  | _, _ => .notANumber

def mul : Binary64 → Binary64 → Binary64
  | .signed a i, .signed b j =>
    if i.val = top || j.val = top then
      if i.val = 0 || j.val = 0 then .notANumber else infinity (a != b)
    else round (a != b) (units i * units j) (Nat.pow 2 1074)
  | _, _ => .notANumber

def div : Binary64 → Binary64 → Binary64
  | .signed a i, .signed b j =>
    if i.val = top then
      if j.val = top then .notANumber else infinity (a != b)
    else if j.val = top then zero (a != b)
    else if j.val = 0 then
      if i.val = 0 then .notANumber else infinity (a != b)
    else round (a != b) (Nat.pow 2 1074 * units i) (units j)
  | _, _ => .notANumber

/-- The numbers added from the left, starting with zero. -/
def sum (xs : List Binary64) : Binary64 := xs.foldl add 0

/-- The same magnitude with the other sign. -/
def neg : Binary64 → Binary64
  | .notANumber => .notANumber
  | .signed a i => .signed (!a) i

/-! ## Decimals -/

/-- The number nearest to `digits * 10 ^ exponent`.  A magnitude that lies far outside the range of the format is
settled without computing the power. -/
def ofDecimal (negative : Bool) (digits : Nat) (exponent : Int) : Binary64 :=
  if digits = 0 then zero negative
  else if 400 < exponent then infinity negative
  else if exponent < -(400 + (digits.log2 : Int)) then zero negative
  else if 0 ≤ exponent then round negative (Nat.pow 2 1074 * (digits * Nat.pow 10 exponent.toNat)) 1
  else round negative (Nat.pow 2 1074 * digits) (Nat.pow 10 (-exponent).toNat)

end Binary64
end BatteryIndicator
