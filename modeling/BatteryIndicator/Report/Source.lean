import BatteryIndicator.Effect
import BatteryIndicator.Report.Reading
/-!
# Source — a reading from the battery command

The battery command is run anew for every reading.  If it fails, or does not exist, there is no reading and a warning;
any other reason not to start it is a failure.
-/
namespace BatteryIndicator
namespace Report

/-- The command that is run unless the settings name another. -/
def defaultCommand : List RawText := ["acpi", "-b", "-i"]

/-- The name of the program, for messages. -/
def programName : List RawText → Except Failure String
  | [] => .error .noSuchItem
  | program :: _ => .ok program.escaped

/-- The reading that running a command gives, if it gives one, and what was done for it. -/
def ofCommand (argv : List RawText) (outcome : Command.Outcome) : Except Failure (Option Reading) × List Effect :=
  let started := Effect.ran ⟨argv, none, none⟩
  match outcome with
  | .finished output =>
    match read output with
    | .ok none => ((programName argv).map fun _ => none, [started])
    | answer => (answer, [started])
  | .exited status => (.ok none, [started, .warning ("Battery command failed: " ++ Command.exitText argv status)])
  | .notStarted e =>
    if e.code = SystemError.absent then
      match programName argv with
      | .ok program => (.ok none, [started, .warning ("Battery command not found: " ++ program)])
      | .error f => (.error f, [started])
    else (.error (.system e), [started])

end Report
end BatteryIndicator
