import BatteryIndicator.Effect
/-!
# Callback — what a step's event runs

The event of a step runs a command, or a hook known by its name.  Either is told the level and the charge state of the
reading.  A command that fails or cannot be started is a warning; a hook may fail, and so may the warning about a command
that has no words, since it names the first of them.
-/
namespace BatteryIndicator

inductive Callback where
  | command (argv : List String)
  /-- code that notes its call; with a text it then fails with that text -/
  | hook (name : String) (failure : Option String)
deriving DecidableEq, Inhabited

namespace Callback

/-- The text that stands for a callback in a message. -/
def literal : Callback → String
  | .command argv => "CommandCallback(" ++ Text.quoted (Command.join argv) ++ ")"
  | .hook name _ => "<hook " ++ name ++ ">"

/-- What a callback is told about the charge, as a word. -/
def chargingWord : Option Bool → String
  | none => "unknown"
  | some true => "true"
  | some false => "false"

/-- The failure of a callback that ran, if it failed, and what it did.  `outcome` is what comes of the program if one is
started. -/
def run (outcome : Command.Outcome) (level : Binary64) (charging : Option Bool) :
    Callback → Option Failure × List Effect
  | .hook name failure => (failure.map .other, [.called ⟨name, level, charging⟩])
  | .command argv =>
    let words := argv.map RawText.ofString
    let started := Effect.ran ⟨words, some (Number.general level), some (chargingWord charging)⟩
    match outcome, argv with
    | .finished _, _ => (none, [started])
    | .exited status, _ => (none, [started, .warning ("Event command failed: " ++ Command.exitText words status)])
    | .notStarted _, [] => (some .noSuchItem, [started])
    | .notStarted e, program :: _ =>
      (none, [started, .warning ("Event command " ++ program ++ " could not run: " ++ e.message)])

/-- A callback as it is given: its command may stand on one line. -/
inductive Form where
  | command (form : Command.Form)
  | hook (name : String) (failure : Option String)
deriving Inhabited

def Form.callback : Form → Except Failure Callback
  | .command form => form.argv.map .command
  | .hook name failure => .ok (.hook name failure)

end Callback
end BatteryIndicator
