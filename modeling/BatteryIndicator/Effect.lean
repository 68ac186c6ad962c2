import BatteryIndicator.Command.Process
/-!
# Effect — what an operation does besides its answer

An operation that logs, runs a program or calls a hook says so in the list of effects it gives back, in the order in
which they happen.  A log line is text as the error output has it.
-/
namespace BatteryIndicator

inductive Severity where
  | info
  | warning
  | error
deriving DecidableEq, Inhabited

namespace Severity

def name : Severity → String
  | .info => "INFO"
  | .warning => "WARNING"
  | .error => "ERROR"

end Severity

/-- A call of a hook with the level and the charge state of a reading. -/
structure HookCall where
  name : String
  level : Binary64
  charging : Option Bool
deriving DecidableEq, Inhabited

inductive Effect where
  | logged (severity : Severity) (text : String)
  | ran (run : Command.Run)
  | called (call : HookCall)
deriving DecidableEq, Inhabited

namespace Effect

def info (text : String) : Effect := .logged .info text

def warning (text : String) : Effect := .logged .warning text

def error (text : String) : Effect := .logged .error text

/-- The log line of an effect that logs. -/
def log? : Effect → Option String
  | .logged s t => some (s.name ++ " " ++ t)
  | _ => none

def run? : Effect → Option Command.Run
  | .ran r => some r
  | _ => none

def call? : Effect → Option HookCall
  | .called c => some c
  | _ => none

end Effect
end BatteryIndicator
