import BatteryIndicator.Direction
import BatteryIndicator.Path
/-!
# Failure — what can go wrong, and the words for it

Every operation that can fail gives its cause as a `Failure`.  The words that a user reads are in `Failure.message` and
in the messages of the causes it is made of, and nowhere else.
-/
namespace BatteryIndicator

/-- A refusal of the operating system: its code, its words, and the file it speaks of. -/
structure SystemError where
  code : Int
  text : String
  file : Option RawText
deriving DecidableEq, Inhabited

namespace SystemError

/-- The code for a file that does not exist. -/
def absent : Int := 2

def message (e : SystemError) : String :=
  "[Errno " ++ toString e.code ++ "] " ++ e.text ++
    match e.file with
    | none => ""
    | some f => ": " ++ f.quoted

end SystemError

/-- Why a value does not do for a setting. -/
inductive SettingFault where
  | notAMapping
  | notAList
  | notANumber
  | notANumeral
  | outOfRange (threshold : Binary64)
  | notAString
  | notUnicode
  | emptyList
  | notAPath
  | notABoolean
  | notABooleanWord

namespace SettingFault

/-- A short name for the kind of fault. -/
def kind : SettingFault → String
  | .notAMapping => "model_type"
  | .notAList => "list_type"
  | .notANumber => "float_type"
  | .notANumeral => "float_parsing"
  | .outOfRange _ => "value_error"
  | .notAString => "string_type"
  | .notUnicode => "string_unicode"
  | .emptyList => "too_short"
  | .notAPath => "path_type"
  | .notABoolean => "bool_type"
  | .notABooleanWord => "bool_parsing"

def message : SettingFault → String
  | .notAMapping => "Input should be a valid dictionary or instance of UserSettings"
  | .notAList => "Input should be a valid list"
  | .notANumber => "Input should be a valid number"
  | .notANumeral => "Input should be a valid number, unable to parse string as a number"
  | .outOfRange t => "Value error, warning threshold " ++ Number.plain t ++ " is outside 0-100"
  | .notAString => "Input should be a valid string"
  | .notUnicode => "Input should be a valid string, unable to parse raw data as a unicode string"
  | .emptyList => "List should have at least 1 item after validation, not 0"
  | .notAPath => "Input is not a valid path for <class 'pathlib.Path'>"
  | .notABoolean => "Input should be a valid boolean"
  | .notABooleanWord => "Input should be a valid boolean, unable to interpret input"

end SettingFault

/-- A fault of one setting: the field, the position within its list if it is about an item, and the fault.  A fault of
the settings as a whole has no field. -/
structure SettingProblem where
  field : Option String
  item : Option Nat
  fault : SettingFault

/-- What a theme is needed for. -/
inductive ThemeUse where
  | count
  | directory
  | charging
  | discharging
  | event
  | steps
deriving DecidableEq, Inhabited

/-- The name of the operation on a theme. -/
def ThemeUse.operation : ThemeUse → String
  | .count => "set_step_count"
  | .directory => "set_dir"
  | .charging => "set_charging"
  | .discharging => "set_discharging"
  | .event => "set_event"
  | .steps => "steps_for"

/-- Why an operation failed. -/
inductive Failure where
  /-- a step set that has not as many steps as its theme declares, or whose theme declares no count -/
  | shapeMismatch (declared : Option Nat) (actual : Nat)
  | invalidDirection (token : Direction.Token)
  /-- no default theme is set, or the default names no registered theme -/
  | noDefaultTheme (name : Option String)
  /-- an event for a theme that is not registered -/
  | unknownTheme (name : String)
  /-- there is no theme where one is needed -/
  | noTheme (use : ThemeUse)
  | noSuchItem
  /-- an index that no list can have -/
  | indexTooLarge
  | countNotPositive (count : Int)
  /-- a step count beyond the number of cuts that a text can have -/
  | tooManyFields
  | numeralTooLong (digits : Nat)
  | numberTooLarge
  | meanOfNothing
  | openQuotation
  | openEscape
  | missingHome
  | settingsNotFound (path : Path)
  | settingsUnreadable
  | settingsInvalid (problems : List SettingProblem)
  | script (path : Path) (cause : Failure)
  | notDelivered
  | undecodable
  /-- a text that is not whole, where it is to be written -/
  | unencodable (text : RawText)
  | system (e : SystemError)
  /-- a failure with words of its own -/
  | other (text : String)

namespace Failure

/-- Which halves of surrogate pairs in a text have no bytes. -/
def unencodableHalves (text : RawText) : String :=
  "'utf-8' codec can't encode character" ++
    (match text.firstHalves with
    | (n, [h]) => " '" ++ RawText.escaped [h] ++ "' in position " ++ toString n
    | (n, hs) => "s in position " ++ toString n ++ "-" ++ toString (n + hs.length - 1)) ++ ": surrogates not allowed"

def message : Failure → String
  | .shapeMismatch none actual => "step set has " ++ toString actual ++ " entries, theme declares no step count yet"
  | .shapeMismatch (some n) actual => "step set has " ++ toString actual ++ " entries, theme declares " ++ toString n
  | .invalidDirection t => "invalid direction " ++ t.literal ++ ", expected 'charging' or 'discharging'"
  | .noDefaultTheme none => "no default theme has been set"
  | .noDefaultTheme (some name) => "default theme " ++ Text.quoted name ++ " is not registered"
  | .unknownTheme name => Text.quoted ("unknown theme " ++ Text.quoted name)
  | .noTheme use => "'NoneType' object has no attribute " ++ Text.quoted use.operation
  | .noSuchItem => "list index out of range"
  | .indexTooLarge => "cannot fit 'int' into an index-sized integer"
  | .countNotPositive n => "step count must be positive, got " ++ toString n
  | .tooManyFields => "Python int too large to convert to C ssize_t"
  | .numeralTooLong digits =>
    "Exceeds the limit (4300 digits) for integer string conversion: value has " ++ toString digits ++
      " digits; use sys.set_int_max_str_digits() to increase the limit"
  | .numberTooLarge => "int too large to convert to float"
  | .meanOfNothing => "division by zero"
  | .openQuotation => "No closing quotation"
  | .openEscape => "No escaped character"
  | .missingHome => "cannot locate the user config directory: set XDG_CONFIG_HOME or HOME"
  | .settingsNotFound path => "Settings file not found: " ++ path.text
  | .settingsUnreadable => "Unable to read settings YAML:"
  | .settingsInvalid _ => "Invalid settings:"
  | .script path cause => "script " ++ path.text ++ " failed: " ++ cause.message
  | .notDelivered => "simulated notification failure"
  | .undecodable => ""
  | .unencodable text => unencodableHalves text
  | .system e => e.message
  | .other text => text

/-- What an operation gives is what it succeeds with. -/
theorem eq_ok_of_toOption {α : Type} {x : Except Failure α} {a : α} (h : x.toOption = some a) : x = .ok a := by
  cases x with
  | error f => cases h
  | ok b => cases h; rfl

end Failure
end BatteryIndicator
