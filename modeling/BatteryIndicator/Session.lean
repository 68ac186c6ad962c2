import BatteryIndicator.Monitor
import BatteryIndicator.Script
import BatteryIndicator.Settings
import BatteryIndicator.Workbench
/-!
# Session — a monitor and its themes under commands

A session holds a workbench of themes, the monitor that polls the battery, and names for the themes and step sets that
its commands work on.  Programs do not run: what comes of each is scripted, one outcome after the other.
-/
namespace BatteryIndicator

/-- What a session can be told.  The names `theme` and `set` are the session's own, other names are those of the
registry. -/
inductive Session.Request where
  | newTheme (theme : String) (directory : Option Path)
  | setStepCount (theme : String) (count : Int)
  | setDirectory (theme : String) (directory : Path)
  | parseSteps (set definition : String) (count : Int)
  | setSteps (theme : String) (direction : Direction) (set : String)
  | attach (theme : String) (index : Int) (callback : Callback.Form) (token : Direction.Token)
  | showTheme (theme : String)
  | register (theme name : String)
  | takeTheme (theme name : String)
  | makeDefault (name : String)
  | contains (name : String)
  | activeTheme
  | names
  | readLines (lines : List String)
  | loadThemes (text : String)
  | setEvent (name : String) (index : Int) (callback : Callback.Form) (token : Direction.Token)
  | runScript (calls : Script)
  | evaluate (theme : Option String) (direction : Direction) (level : Binary64)
  | check (level : Binary64) (charging : Option Bool)
  | poll (report : String)
  | pollCommand

/-- What a session answers. -/
inductive Session.Answer where
  | nothing
  | truth (b : Bool)
  | count (n : Nat)
  | name (n : Option String)
  | names (ns : List String)
  | theme (t : Option (Theme Step))
  | evaluation (e : Evaluation)
  | warning (w : Option Warning)

structure Session where
  workbench : Workbench
  monitor : Monitor
  /-- the directory that themes read from files start with -/
  iconDirectory : Path
  batteryCommand : List RawText
  /-- what comes of the programs still to be run; after these each finishes without output -/
  outcomes : List Command.Outcome
  /-- the numbers of the themes that have a name here -/
  themes : Entries String Nat
  /-- the numbers of the steps in the sets that have a name here -/
  sets : Entries String (List Nat)
  /-- the number of the step of the last evaluation -/
  lastStep : Option Nat

namespace Session

/-- A session that starts with settings and a notifier. -/
def new (settings : Settings) (notifier : Notifier) (outcomes : List Command.Outcome) : Session where
  workbench := .empty
  monitor := .new settings.thresholds notifier
  iconDirectory := settings.iconDirectory
  batteryCommand := settings.batteryCommand
  outcomes := outcomes
  themes := []
  sets := []
  lastStep := none

/-- Starts with a state of the evaluation. -/
def resume (state : Evaluation.State) (s : Session) : Session :=
  { s with monitor := { s.monitor with evaluation := state } }

/-! ## What is shown -/

/-- The last evaluation of a poll, with its step as it is now. -/
def lastEvaluation (s : Session) : Option Evaluation :=
  s.monitor.lastEvaluation.map fun e =>
    match s.lastStep with
    | some n => { e with step := some (s.workbench.step n) }
    | none => e

/-- The number of a theme, which must be one. -/
def needed (use : ThemeUse) : Option Nat → Except Failure Nat
  | some n => .ok n
  | none => .error (.noTheme use)

/-- The number of a theme that has a name here and is needed for something. -/
def theme (name : String) (use : ThemeUse) (s : Session) : Except Failure Nat := needed use (s.themes.find? name)

/-- The number of the active theme, whose steps are needed. -/
def activeNumber (s : Session) : Except Failure Nat := s.workbench.active.bind (needed .steps)

/-- The active theme with its steps. -/
def active (s : Session) : Except Failure (Theme Step) := s.activeNumber.map fun n => s.workbench.view n

/-! ## Polls -/

/-- What comes of the next program. -/
def outcome (s : Session) : Command.Outcome := s.outcomes.headD (.finished "")

/-- Notes the programs that were run. -/
def spend (effects : List Effect) (s : Session) : Session :=
  { s with outcomes := s.outcomes.drop (effects.filterMap Effect.run?).length }

/-- The number of the step that a reading shows. -/
def stepOf (r : Reading) (s : Session) : Option Nat :=
  match s.activeNumber with
  | .ok n => s.workbench.stepFor n r.direction r.level
  | .error _ => none

/-- One cycle of the monitor. -/
def cycle (reading : Option Reading) (s : Session) : Except Failure Answer × Session × List Effect :=
  let done := s.monitor.poll s.active s.outcome reading
  let lastStep := match reading, s.active with
    | some r, .ok _ => s.stepOf r
    | _, _ => s.lastStep
  let result := match done.1 with
    | some f => .error f
    | none => .ok (.truth true)
  (result, { s with monitor := done.2.1, lastStep := lastStep }.spend done.2.2, done.2.2)

/-- One cycle through the battery command. -/
def cycleCommand (s : Session) : Except Failure Answer × Session × List Effect :=
  let read := Report.ofCommand s.batteryCommand s.outcome
  let s := s.spend read.2
  match read.1 with
  | .error f => (.error f, s, read.2)
  | .ok reading =>
    let done := s.cycle reading
    (done.1, done.2.1, read.2 ++ done.2.2)

/-! ## Requests -/

/-- A change of the workbench that may fail and has no answer. -/
def change (result : Except Failure Workbench) (s : Session) : Except Failure Answer × Session × List Effect :=
  match result with
  | .ok w => (.ok .nothing, { s with workbench := w }, [])
  | .error f => (.error f, s, [])

def showing (answer : Answer) (s : Session) : Except Failure Answer × Session × List Effect := (.ok answer, s, [])

/-- A new step set under a name. -/
def parseSteps (set definition : String) (count : Int) (s : Session) :
    Except Failure Answer × Session × List Effect :=
  match Step.Definition.read definition count with
  | .error f => (.error f, s, [])
  | .ok r =>
    let added := s.workbench.addSteps r.steps
    (.ok (.count r.steps.length), { s with workbench := added.2, sets := s.sets.put set added.1 },
      r.dropped.map fun d => (Problem.entry d).effect)

/-- The themes of lines that come from no file; the default stays. -/
def readLines (lines : List String) (s : Session) : Except Failure Answer × Session × List Effect :=
  let r := Theme.File.read ⟨"<string>", s.iconDirectory⟩ lines
  (r.result.map .name, { s with workbench := ThemeStore.adoptAll r.themes s.workbench }, r.problems.map Problem.effect)

/-- The themes of a theme file, whose last theme becomes the default. -/
def loadThemes (text : String) (s : Session) : Except Failure Answer × Session × List Effect :=
  let lines := (Text.fileLines (Text.unifyNewlines text.toList)).map String.ofList
  let r := Theme.File.read ⟨"themes.conf", s.iconDirectory⟩ lines
  let loaded := ThemeStore.load r s.workbench
  (loaded.1.map .name, { s with workbench := loaded.2 }, r.problems.map Problem.effect)

def runScript (calls : Script) (s : Session) : Except Failure Answer × Session × List Effect :=
  let done := calls.run (.ofString "rc.py") s.workbench
  let result := match done.1 with
    | some f => .error f
    | none => .ok .nothing
  (result, { s with workbench := done.2.1 }, done.2.2)

/-- Evaluates a theme, or the active one, without running an event. -/
def evaluate (theme : Option String) (d : Direction) (level : Binary64) (s : Session) :
    Except Failure Answer × Session × List Effect :=
  match theme.elim s.activeNumber fun name => s.theme name .steps with
  | .error f => (.error f, s, [])
  | .ok n =>
    let e := s.monitor.evaluate (s.workbench.view n) d level
    (.ok (.evaluation e.1), { s with monitor := e.2 }, [])

/-- The theme of the registry gets a name here; if there is none, the name has none. -/
def takeTheme (theme name : String) (s : Session) : Except Failure Answer × Session × List Effect :=
  match s.workbench.find? name with
  | some n => (.ok (.theme (some (s.workbench.view n))), { s with themes := s.themes.put theme n }, [])
  | none => (.ok (.theme none), { s with themes := s.themes.filter fun e => e.1 != theme }, [])

/-- What a theme is needed for when a step set is assigned. -/
def assigning : Direction → ThemeUse
  | .discharging => .discharging
  | _ => .charging

/-- Attaches an event to a step of a theme that has a name here.  The theme must be one before the callback is made. -/
def attach (theme : String) (index : Int) (callback : Callback.Form) (token : Direction.Token) (s : Session) :
    Except Failure Workbench := do
  let n ← s.theme theme .event
  let c ← callback.callback
  s.workbench.setEvent n index c token

/-- Attaches an event to a step of a registered theme.  The callback is made before the theme is looked up. -/
def attachTo (name : String) (index : Int) (callback : Callback.Form) (token : Direction.Token) (s : Session) :
    Except Failure Workbench := do
  let c ← callback.callback
  s.workbench.setEventOf name index c token

/-- The answer to a request, the session after it, and what was done. -/
def perform (request : Request) (s : Session) : Except Failure Answer × Session × List Effect :=
  let w := s.workbench
  match request with
  | .newTheme theme directory =>
    let added := w.addTheme (.new (directory.getD Settings.defaultIconDirectory))
    (.ok .nothing, { s with workbench := added.2, themes := s.themes.put theme added.1 }, [])
  | .setStepCount theme count => s.change ((s.theme theme .count).bind fun n => w.setStepCount n count)
  | .setDirectory theme directory => s.change ((s.theme theme .directory).map fun n => w.setDirectory n directory)
  | .parseSteps set definition count => s.parseSteps set definition count
  | .setSteps theme d set =>
    s.change ((s.theme theme (assigning d)).bind fun n => w.setSteps n d ((s.sets.find? set).getD []))
  | .attach theme index callback token => s.change (s.attach theme index callback token)
  | .showTheme theme => s.showing (.theme ((s.themes.find? theme).map fun n => w.view n))
  | .register theme name => s.change (.ok (w.register name (s.themes.find? theme)))
  | .takeTheme theme name => s.takeTheme theme name
  | .makeDefault name => s.change (.ok (w.makeDefault name))
  | .contains name => s.showing (.truth (w.registry.contains name))
  | .activeTheme =>
    match w.active with
    | .ok n => s.showing (.theme (n.map fun n => w.view n))
    | .error f => (.error f, s, [])
  | .names => s.showing (.names w.registry.names)
  | .readLines lines => s.readLines lines
  | .loadThemes text => s.loadThemes text
  | .setEvent name index callback token => s.change (s.attachTo name index callback token)
  | .runScript calls => s.runScript calls
  | .evaluate theme d level => s.evaluate theme d level
  | .check level charging =>
    let r := s.monitor.check level charging
    (.ok (.warning r.1), { s with monitor := r.2.1 }, r.2.2)
  | .poll report =>
    match Report.read report with
    | .ok reading => s.cycle reading
    | .error f => (.error f, s, [])
  | .pollCommand => s.cycleCommand

end Session
end BatteryIndicator
