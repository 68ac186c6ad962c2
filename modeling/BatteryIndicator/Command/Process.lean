import BatteryIndicator.Command.Line
/-!
# Process — running a program, and what came of it

A program that is run either finishes, with the text it wrote, or exits with a status that is not zero, where a negative
status names the signal that ended it, or could not be started at all.  A `Run` records what was started.
-/
namespace BatteryIndicator
namespace Command

/-- What came of running a program. -/
inductive Outcome where
  | finished (output : String)
  | exited (status : Int)
  | notStarted (e : SystemError)
deriving Inhabited

/-- A program that was started: its words, and the level and charge state handed to it if it runs for an event. -/
structure Run where
  argv : List RawText
  level : Option String
  charging : Option String
deriving DecidableEq, Inhabited

/-- The signals that have names. -/
def signalNames : List (Nat × String) :=
  [(1, "SIGHUP"), (2, "SIGINT"), (3, "SIGQUIT"), (4, "SIGILL"), (5, "SIGTRAP"), (6, "SIGABRT"), (7, "SIGBUS"),
   (8, "SIGFPE"), (9, "SIGKILL"), (10, "SIGUSR1"), (11, "SIGSEGV"), (12, "SIGUSR2"), (13, "SIGPIPE"), (14, "SIGALRM"),
   (15, "SIGTERM"), (16, "SIGSTKFLT"), (17, "SIGCHLD"), (18, "SIGCONT"), (19, "SIGSTOP"), (20, "SIGTSTP"),
   (21, "SIGTTIN"), (22, "SIGTTOU"), (23, "SIGURG"), (24, "SIGXCPU"), (25, "SIGXFSZ"), (26, "SIGVTALRM"),
   (27, "SIGPROF"), (28, "SIGWINCH"), (29, "SIGIO"), (30, "SIGPWR"), (31, "SIGSYS"), (34, "SIGRTMIN"),
   (64, "SIGRTMAX")]

/-- How a program with these words ended. -/
def exitText (argv : List RawText) (status : Int) : String :=
  let command := "Command '[" ++ String.intercalate ", " (argv.map RawText.quoted) ++ "]' "
  if status < 0 then
    match signalNames.lookup status.natAbs with
    | some name => command ++ "died with <Signals." ++ name ++ ": " ++ toString status.natAbs ++ ">."
    | none => command ++ "died with unknown signal " ++ toString status.natAbs ++ "."
  else command ++ "returned non-zero exit status " ++ toString status ++ "."

end Command
end BatteryIndicator
