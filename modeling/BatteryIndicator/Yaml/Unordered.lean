import BatteryIndicator.Value
/-!
# Unordered — the items of a set

A set has each item once, and its items have no order of their own.  They are met in the order of their slots in a table:
an item belongs to the slot of its word, and goes on to others while that is taken.  Numbers and empty texts have words;
a set with an item that has none is met in the order in which it is written.
-/
namespace BatteryIndicator
namespace Yaml
namespace Unordered

/-- A finite number in units of `2^-1074`; truth values count as zero and one. -/
def units? : Value → Option Int
  | .flag b => some (if b then Int.pow 2 1074 else 0)
  | .integer z => some (z * Int.pow 2 1074)
  | .real (.signed negative k) =>
    if k.val < Binary64.top then some (Binary64.signedUnits negative k) else none
  | _ => none

/-- Whether two items are one in a set. -/
def isSame (v w : Value) : Bool :=
  match units? v, units? w with
  | some x, some y => x == y
  | none, none =>
    match v, w with
    | .null, .null => true
    | .real x, .real y => x.equal y
    | .text s, .text t => s == t
    | .brokenText s, .brokenText t => s == t
    | .bytes bs, .bytes cs => bs == cs
    | .moment m, .moment n => m == n
    | _, _ => false
  | _, _ => false

/-- The items, each where it is first. -/
def distinct : List Value → List Value
  | [] => []
  | v :: vs => v :: (distinct vs).filter fun w => !isSame v w

/-! ## Slots -/

/-- The modulus of the remainders, a prime. -/
def modulus : Nat := Nat.pow 2 61 - 1

/-- The remainder of a number.  The factor `2^24` is `2^-1074` in the field of this modulus. -/
def remainder (units : Int) : Nat := units.natAbs * Nat.pow 2 24 % modulus

/-- The remainder that infinity has by convention. -/
def infinityRemainder : Nat := 314159

def wordSize : Nat := Nat.pow 2 64

/-- A remainder with a sign as a word of 64 bits.  The word of `-1` is kept for no item. -/
def signedWord (negative : Bool) (r : Nat) : Nat :=
  if negative then (wordSize - (if r = 1 then 2 else r)) % wordSize else r

/-- The word of an item, if it has one: that of its remainder, or zero for an empty text. -/
def word? (v : Value) : Option Nat :=
  match units? v, v with
  | some x, _ => some (signedWord (x < 0) (remainder x))
  | none, .real (.signed negative _) => some (signedWord negative infinityRemainder)
  | none, .text s => if s.isEmpty then some 0 else none
  | none, .bytes bs => if bs.isEmpty then some 0 else none
  | none, _ => none

/-- The number of slots for so many items: the least power of two, from eight on, that is more than twice as much, or
eight for up to four items. -/
def tableSize (count : Nat) : Nat := if count < 5 then 8 else Nat.pow 2 ((2 * count).log2 + 1)

/-- The slots that are tried from one on: ten in a row, or this one alone near the end. -/
def row (size slot : Nat) : List Nat := if slot + 9 < size then List.range' slot 10 else [slot]

/-- The slot for a word: the first free one of the rows that are tried in turn. -/
def freeSlot (size : Nat) (taken : List Nat) : (tries : Nat) → (slot rest : Nat) → Nat
  | 0, slot, _ => slot
  | tries + 1, slot, rest =>
    match (row size slot).find? fun s => !taken.contains s with
    | some s => s
    | none => freeSlot size taken tries ((slot * 5 + 1 + rest / 32) % size) (rest / 32)

/-- The slots of words, which come one after the other. -/
def slots (size : Nat) : List Nat → List Nat → List Nat
  | taken, [] => taken.reverse
  | taken, w :: ws => slots size (freeSlot size taken (size + 64) (w % size) w :: taken) ws

/-- Items in the order of the slots of their words. -/
def bySlot (vs : List Value) (words : List Nat) : List Value :=
  (((slots (tableSize words.length) [] words).zip vs).mergeSort fun a b => a.1 ≤ b.1).map Prod.snd

/-- The items of a set as they are met. -/
def items (written : List Value) : List Value :=
  let vs := distinct written
  match vs.mapM word? with
  | some words => bySlot vs words
  | none => vs

end Unordered
end Yaml
end BatteryIndicator
