import BatteryIndicator.Value
/-!
# Date — dates and times as scalars

A date is `2024-01-31`; a date with a time is `2024-1-31 12:30:00.5 +2:00`, where the fraction and the zone may be left
out and a `T` may stand before the time.  The readers tell what a text with the shape says, and `moment?` whether there is
such a date.  A scalar that is said to be a date may leave out zeros without a time, too.
-/
namespace BatteryIndicator
namespace Yaml
namespace Date

/-! ## What a text says -/

/-- A time of day, and how many minutes it is ahead of the world's, if that is said. -/
structure Time where
  hour : Nat
  minute : Nat
  second : Nat
  microsecond : Nat
  zone? : Option Int

structure Written where
  year : Nat
  month : Nat
  day : Nat
  time? : Option Time

/-- The number that a row of digits writes. -/
def numeral (ds : List Char) : Nat := ds.foldl (fun n c => 10 * n + (c.toNat - 48)) 0

/-- A row of at least `least` and at most `least + extra` digits, as a number. -/
def number? (least extra : Nat) (s : List Char) : Option (Nat × List Char) :=
  let ds := (s.take (least + extra)).takeWhile Char.isDigit
  if ds.length < least then none else some (numeral ds, s.drop ds.length)

/-- A sign and a number after it. -/
def after? (sign : Char) (least extra : Nat) : List Char → Option (Nat × List Char)
  | [] => none
  | c :: s => if c = sign then number? least extra s else none

/-- A date at the front, with month and day of at least `least` digits, and the text after it. -/
def front? (least : Nat) (s : List Char) : Option (Written × List Char) := do
  let (year, s) ← number? 4 0 s
  let (month, s) ← after? '-' least (2 - least) s
  let (day, s) ← after? '-' least (2 - least) s
  some (⟨year, month, day, none⟩, s)

/-- A date alone. -/
def day? (least : Nat) (s : List Char) : Option Written := do
  let (date, s) ← front? least s
  if s.isEmpty then some date else none

def isSpace (c : Char) : Bool := c == ' ' || c == '\t'

/-- What stands between a date and its time. -/
def gap? : List Char → Option (List Char)
  | [] => none
  | c :: s => if c = 'T' || c = 't' then some s else if isSpace c then some (s.dropWhile isSpace) else none

/-- The digits of a fraction of a second, and what is after them. -/
def fraction : List Char → List Char × List Char
  | '.' :: s => (s.takeWhile Char.isDigit, s.dropWhile Char.isDigit)
  | s => ([], s)

/-- Microseconds: six digits of a fraction. -/
def microseconds (ds : List Char) : Nat := numeral ((ds ++ List.replicate 6 '0').take 6)

/-- The rest of a time: nothing, or a zone. -/
def zone? (s : List Char) : Option (Option Int) :=
  match s.dropWhile isSpace with
  | [] => if s.isEmpty then some none else none
  | ['Z'] => some (some 0)
  | c :: t =>
    if c = '+' || c = '-' then do
      let (hours, t) ← number? 1 1 t
      let (minutes, t) ← if t.isEmpty then some (0, t) else after? ':' 2 0 t
      let ahead : Int := 60 * hours + minutes
      if t.isEmpty then some (some (if c = '-' then -ahead else ahead)) else none
    else none

def dayAndTime? (s : List Char) : Option Written := do
  let (date, s) ← front? 1 s
  let (hour, s) ← gap? s >>= number? 1 1
  let (minute, s) ← after? ':' 2 0 s
  let (second, s) ← after? ':' 2 0 s
  let (digits, s) := fraction s
  let zone ← zone? s
  some { date with time? := some ⟨hour, minute, second, microseconds digits, zone⟩ }

/-- Whether a scalar looks like a date. -/
def isDate (s : List Char) : Bool := (day? 2 s).isSome || (dayAndTime? s).isSome

/-! ## The calendar -/

def isLeap (year : Nat) : Bool := year % 4 == 0 && (year % 100 != 0 || year % 400 == 0)

def daysIn (year month : Nat) : Nat :=
  if month = 2 then (if isLeap year then 29 else 28)
  else if [4, 6, 9, 11].contains month then 30
  else 31

/-- The days before a year, from the year one on. -/
def daysBefore (year : Nat) : Nat := 365 * (year - 1) + (year - 1) / 4 - (year - 1) / 100 + (year - 1) / 400

namespace Written

/-- The number of the day, if there is such a day. -/
def dayNumber? (w : Written) : Option Nat :=
  if 1 ≤ w.year && 1 ≤ w.month && w.month ≤ 12 && 1 ≤ w.day && w.day ≤ daysIn w.year w.month then
    some (daysBefore w.year + ((List.range' 1 (w.month - 1)).map (daysIn w.year)).foldl (· + ·) 0 + w.day)
  else none

/-- What is written, if there is such a day and such a time.  Zones are less than a day away. -/
def moment? (w : Written) : Option Moment := do
  let n ← w.dayNumber?
  match w.time? with
  | none => some (.day n)
  | some t =>
    if t.hour < 24 && t.minute < 60 && t.second < 60 then
      let ticks : Int := ((((24 * n + t.hour) * 60 + t.minute) * 60 + t.second) * 1000000 + t.microsecond : Nat)
      match t.zone? with
      | none => some (.local ticks)
      | some ahead => if ahead.natAbs < 24 * 60 then some (.universal (ticks - ahead * 60000000)) else none
    else none

end Written

/-- The date that a scalar which is said to be one writes, if there is such a date. -/
def moment? (s : List Char) : Option Moment := ((day? 1 s).or (dayAndTime? s)) >>= Written.moment?

end Date
end Yaml
end BatteryIndicator
