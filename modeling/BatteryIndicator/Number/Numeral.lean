import BatteryIndicator.Number.Binary64
import BatteryIndicator.Text.Blank
import BatteryIndicator.Text.Digit
/-!
# Numeral — numbers read from text

A numeral is an optional sign and a magnitude, and it takes up the whole text: blanks around it are the caller's to
remove.  A whole number is a row of digits; a real number may have a point and an exponent, or be one of the words
`inf`, `infinity`, `nan` in any case.  A `Style` says which digits count and whether an underscore may separate two of
them.  Whole numbers of more than `digitLimit` digits are refused.
-/
namespace BatteryIndicator
namespace Numeral

/-- Which characters are digits, and whether single underscores may stand between two digits. -/
structure Style where
  digit? : Char → Option Nat
  separated : Bool

/-- The digits of all scripts, with underscores between them. -/
def written : Style := ⟨Text.digitValue?, true⟩

/-- The ten ASCII digits alone. -/
def ascii : Style := ⟨fun c => if c.isDigit then some (c.toNat - 0x30) else none, false⟩

/-- The longest row of digits at the front, as values, and the text after it. -/
def Style.row (y : Style) : List Char → List Nat × List Char
  | [] => ([], [])
  | c :: s =>
    match y.digit? c with
    | none => ([], c :: s)
    | some d =>
      let r := y.row s
      match s with
      | '_' :: t =>
        let q := y.row t
        if y.separated && !q.1.isEmpty then (d :: q.1, q.2) else ([d], s)
      | _ => (d :: r.1, r.2)

/-- An optional sign at the front: whether it is a minus, and the text after it. -/
def sign : List Char → Bool × List Char
  | '-' :: s => (true, s)
  | '+' :: s => (false, s)
  | s => (false, s)

/-! ## Whole numbers -/

/-- The most digits a whole number may be written with. -/
def digitLimit : Nat := 4300

/-- A whole number's sign and digits. -/
def Style.whole? (y : Style) (s : List Char) : Option (Bool × List Nat) :=
  let t := sign s
  match y.row t.2 with
  | ([], _) => none
  | (ds, []) => some (t.1, ds)
  | (_ :: _, _ :: _) => none

/-- The whole number that a text writes in at most `digitLimit` digits. -/
def int? (s : List Char) : Option Int := do
  let (negative, ds) ← written.whole? s
  if digitLimit < ds.length then none
  else some (if negative then -(Text.ofDigits ds : Int) else Text.ofDigits ds)

/-! ## Whole numbers in a base

The digits of any script count, and beyond ten the ASCII letters.  A zero and a letter may stand in front to tell the
base. -/

/-- The letter that tells a base. -/
def markOf (base : Nat) : Option Char := [(2, 'b'), (8, 'o'), (16, 'x')].lookup base

def withoutMark (base : Nat) : List Char → List Char
  | zero :: mark :: s =>
    if Text.digitValue? zero = some 0 && some mark.toLower == markOf base then s else zero :: mark :: s
  | s => s

def letterValue? (c : Char) : Option Nat :=
  if 'a' ≤ c && c ≤ 'z' then some (c.toNat - 87) else if 'A' ≤ c && c ≤ 'Z' then some (c.toNat - 55) else none

def digitIn? (base : Nat) (c : Char) : Option Nat :=
  ((Text.digitValue? c).or (letterValue? c)).filter fun d => decide (d < base)

/-- The whole number that a text writes in a base, with margins around it.  Only decimal numbers are limited in their
length. -/
def inBase? (base : Nat) (s : List Char) : Option Int := do
  let (negative, t) := sign (Text.trimMargins s)
  let ds ← (withoutMark base t).mapM (digitIn? base)
  if ds.isEmpty || (base = 10 && decide (digitLimit < ds.length)) then none
  let n := ds.foldl (fun n d => base * n + d) 0
  some (if negative then -(n : Int) else n)

/-! ## Real numbers -/

/-- The exponent part: nothing, or an `e` and a whole number with a sign of its own. -/
def Style.exponent? (y : Style) : List Char → Option Int
  | [] => some 0
  | c :: s =>
    if c = 'e' || c = 'E' then (y.whole? s).map fun r => if r.1 then -(Text.ofDigits r.2 : Int) else Text.ofDigits r.2
    else none

/-- Digits, a point and digits, of which one row may be missing, or digits without a point. -/
def Style.magnitude? (y : Style) (negative : Bool) (s : List Char) : Option Binary64 :=
  let i := y.row s
  let f := match i.2 with
    | '.' :: t => y.row t
    | t => ([], t)
  if i.1.isEmpty && f.1.isEmpty then none
  else (y.exponent? f.2).map fun e => .ofDecimal negative (Text.ofDigits (i.1 ++ f.1)) (e - f.1.length)

def infinityWords : List String := ["inf", "infinity"]

/-- The real number that a text writes. -/
def Style.real? (y : Style) (s : List Char) : Option Binary64 :=
  let t := sign s
  let word := String.ofList (t.2.map Char.toLower)
  if infinityWords.contains word then some (.infinity t.1)
  else if word = "nan" then some .notANumber
  else y.magnitude? t.1 t.2

end Numeral
end BatteryIndicator
