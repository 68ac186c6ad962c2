import BatteryIndicator.Number.Numeral
import BatteryIndicator.Settings
import BatteryIndicator.Text.Blank
import BatteryIndicator.Text.Encoding
/-!
# Validation — settings from a document

A document gives each setting at most one value, the last one under its key; keys of no setting do not count.  A value is
read generously: a number may be a text that writes one, a truth value a word or a zero or one, and bytes may stand for
a text, but not for a path.  If some value does not do there are no settings at all, but the faults of all of them, in
the order of the settings.
-/
namespace BatteryIndicator
namespace Settings

/-! ## Values -/

/-- Underscores that each stand between two other characters. -/
def areSeparators : List Char → Bool
  | '_' :: _ => false
  | s => !(s.getLast? = some '_') && (s.zip s.tail).all fun p => !(p.1 == '_' && p.2 == '_')

/-- The number that a text writes, with blanks around it or with underscores in it. -/
def numeral? (s : List Char) : Option Binary64 :=
  (Numeral.ascii.real? (Text.trimMargins s)).or
    (if s.contains '_' && areSeparators s then Numeral.ascii.real? (s.filter (· != '_')) else none)

/-- The text of bytes; a fault if they are none. -/
def textOf (fault : SettingFault) (bs : List UInt8) : Except SettingFault String :=
  match Text.ofBytes? bs with
  | some s => .ok s
  | none => .error fault

def numberOfText (s : String) : Except SettingFault Binary64 :=
  match numeral? s.toList with
  | some x => .ok x
  | none => .error .notANumeral

def number : Value → Except SettingFault Binary64
  | .flag b => .ok (if b then 1 else 0)
  | .integer z =>
    match Binary64.ofInt? z with
    | some x => .ok x
    | none => .error .notANumber
  | .real x => .ok x
  | .text s => numberOfText s
  | .brokenText _ => .error .notUnicode
  | .bytes bs => (textOf .notANumeral bs).bind numberOfText
  | _ => .error .notANumber

def string : Value → Except SettingFault RawText
  | .text s => .ok s
  | .brokenText s => .ok s
  | .bytes bs => (textOf .notUnicode bs).map .ofString
  | _ => .error .notAString

def path : Value → Except SettingFault Path
  | .text s => .ok (.ofString s)
  | .brokenText s => .ok (.ofRaw s)
  | _ => .error .notAPath

def trueWords : List String := ["1", "on", "t", "true", "y", "yes"]

def falseWords : List String := ["0", "off", "f", "false", "n", "no"]

/-- The truth value of a word in any case. -/
def wordFlag (s : String) : Except SettingFault Bool :=
  let word := String.ofList (s.toList.map Char.toLower)
  if trueWords.contains word then .ok true
  else if falseWords.contains word then .ok false
  else .error .notABooleanWord

/-- The truth value of zero or one.  Numbers beyond 64 bits are not even looked at. -/
def numberFlag (z : Int) : Except SettingFault Bool :=
  if z < -Int.pow 2 63 ∨ Int.pow 2 63 ≤ z then .error .notABoolean
  else if z = 0 then .ok false
  else if z = 1 then .ok true
  else .error .notABooleanWord

def flag : Value → Except SettingFault Bool
  | .flag b => .ok b
  | .integer z => numberFlag z
  | .real x =>
    match x.toInt? with
    | some z => if z = -Int.pow 2 63 then .error .notABoolean else numberFlag z
    | none => .error .notABoolean
  | .text s => wordFlag s
  | .brokenText _ => .error .notUnicode
  | .bytes bs => (textOf .notABooleanWord bs).bind wordFlag
  | _ => .error .notABoolean

/-! ## Lists -/

/-- The faults of a value, each with the position of the item it is about, if it is about one. -/
abbrev Faults := List (Option Nat × SettingFault)

/-- The items of a list, the first of them at a position; the faults of all of them are told. -/
def items {α : Type} (read : Value → Except SettingFault α) : Nat → List Value → Except Faults (List α)
  | _, [] => .ok []
  | n, v :: vs =>
    match read v, items read (n + 1) vs with
    | .ok x, .ok xs => .ok (x :: xs)
    | .ok _, .error fs => .error fs
    | .error f, .ok _ => .error [(some n, f)]
    | .error f, .error fs => .error ((some n, f) :: fs)

def list {α : Type} (read : Value → Except SettingFault α) : Value → Except Faults (List α)
  | .list vs | .set vs => items read 0 vs
  | _ => .error [(none, .notAList)]

def isPercentage (x : Binary64) : Bool := Binary64.le 0 x && x.le 100

/-- Thresholds are percentages; the first one that is not is told, once all are numbers. -/
def percentages (v : Value) : Except Faults (List Binary64) :=
  match list number v with
  | .error fs => .error fs
  | .ok xs =>
    match xs.find? fun x => !isPercentage x with
    | some x => .error [(none, .outOfRange x)]
    | none => .ok xs

/-- A command has at least one word. -/
def commandWords (v : Value) : Except Faults (List RawText) :=
  match list string v with
  | .ok [] => .error [(none, .emptyList)]
  | r => r

/-- The reading of a value that is no list. -/
def single {α : Type} (read : Value → Except SettingFault α) (v : Value) : Except Faults α :=
  match read v with
  | .ok x => .ok x
  | .error f => .error [(none, f)]

/-! ## Settings -/

def isKey (key : String) : Value → Bool
  | .text s => s == key
  | _ => false

/-- The value that a document gives a key; of several the last one counts. -/
def given? (key : String) (entries : List (Value × Value)) : Option Value :=
  (entries.reverse.find? fun e => isKey key e.1).map Prod.snd

/-- A setting: what its value reads as, or its default when it is not given. -/
def field {α : Type} (key : String) (otherwise : α) (read : Value → Except Faults α)
    (entries : List (Value × Value)) : Except (List SettingProblem) α :=
  match given? key entries with
  | none => .ok otherwise
  | some v =>
    match read v with
    | .ok x => .ok x
    | .error fs => .error (fs.map fun f => ⟨some key, f.1, f.2⟩)

def problems {α : Type} : Except (List SettingProblem) α → List SettingProblem
  | .ok _ => []
  | .error ps => ps

/-- The settings that the entries of a document make. -/
def ofEntries (entries : List (Value × Value)) : Except (List SettingProblem) Settings :=
  let t := field "warning_thresholds" default.thresholds percentages entries
  let c := field "battery_command" default.batteryCommand commandWords entries
  let i := field "icon_dir" default.iconDirectory (single path) entries
  let s := field "system_config_dir" default.systemDirectory (single path) entries
  let n := field "use_notifications" default.notifications (single flag) entries
  match t, c, i, s, n with
  | .ok t, .ok c, .ok i, .ok s, .ok n => .ok ⟨t, c, i, s, n⟩
  | _, _, _, _, _ => .error (problems t ++ problems c ++ problems i ++ problems s ++ problems n)

/-- The settings that a document makes. -/
def validate : Value → Except (List SettingProblem) Settings
  | .mapping entries => ofEntries entries
  | _ => .error [⟨none, none, .notAMapping⟩]

end Settings
end BatteryIndicator
