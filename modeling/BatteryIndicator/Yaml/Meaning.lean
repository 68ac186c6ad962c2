import BatteryIndicator.Text.Base64
import BatteryIndicator.Value
import BatteryIndicator.Yaml.Literal
import BatteryIndicator.Yaml.Scalar
/-!
# Meaning — the values of scalars by their tags

A tag may be given to any scalar, so a text need not look like what its tag says: underscores in numbers are left out
wherever they are, a sign may be followed by another one, and numbers between colons may have margins.  A text that
cannot be read as its tag says has no value.
-/
namespace BatteryIndicator
namespace Yaml
namespace Meaning

def withoutUnderscores (s : List Char) : List Char := s.filter (· != '_')

/-- Applies a sign. -/
def signed (negative : Bool) (n : Int) : Int := if negative then -n else n

/-- Whole numbers between colons, from the left. -/
def sixtieths? (s : List Char) : Option Int :=
  ((Literal.pieces s).mapM (Numeral.inBase? 10)).map fun ns => ns.foldl (fun n p => 60 * n + p) 0

/-- A whole number without its first sign.  A zero at the front makes it octal. -/
def magnitude? (s : List Char) : Option Int :=
  match s with
  | [] => none
  | ['0'] => some 0
  | '0' :: 'b' :: row => Numeral.inBase? 2 row
  | '0' :: 'x' :: row => Numeral.inBase? 16 row
  | '0' :: _ => Numeral.inBase? 8 s
  | _ => if s.contains ':' then sixtieths? s else Numeral.inBase? 10 s

def integer? (s : List Char) : Option Int :=
  let t := Numeral.sign (withoutUnderscores s)
  (magnitude? t.2).map (signed t.1)

def real? (s : List Char) : Option Binary64 := Numeral.written.real? (Text.trimMargins s)

/-- The sum of the pieces times the powers of sixty, from the last piece on. -/
def sumOfPieces? : Int → Binary64 → List (List Char) → Option Binary64
  | _, sum, [] => some sum
  | base, sum, p :: ps => do
    let v ← real? p
    let b ← Binary64.ofInt? base
    sumOfPieces? (60 * base) (sum.add (v.mul b)) ps

/-- A real number without its first sign, in lower case. -/
def realMagnitude? (s : List Char) : Option Binary64 :=
  if s.isEmpty then none
  else if s = ".inf".toList then some (.infinity false)
  else if s = ".nan".toList then some .notANumber
  else if s.contains ':' then
    ((Literal.pieces s).mapM real?).bind fun _ => sumOfPieces? 1 0 (Literal.pieces s).reverse
  else real? s

def number? (s : List Char) : Option Binary64 :=
  let t := Numeral.sign ((withoutUnderscores s).map Char.toLower)
  (realMagnitude? t.2).map fun x => if t.1 then x.neg else x

def flag? (s : List Char) : Option Bool := Literal.flagWords.lookup (String.ofList (s.map Char.toLower))

/-- The value of a scalar with a tag, if it has one. -/
def value? (tag : Tag) (s : Scalar) : Option Value :=
  let cs := s.text.toList
  match tag with
  | .null => some .null
  | .flag => (flag? cs).map .flag
  | .integer => (integer? cs).map .integer
  | .real => (number? cs).map .real
  | .binary => if cs.all fun c => decide (c.toNat < 128) then (Text.Base64.decode? cs).map .bytes else none
  | .time => (Date.moment? (Literal.withoutFinalBreak cs)).map .moment
  | .text => some ((s.content.whole?.map .text).getD (.brokenText s.content))
  | _ => none

end Meaning
end Yaml
end BatteryIndicator
