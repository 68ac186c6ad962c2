import BatteryIndicator.CommandLine.Arguments
import BatteryIndicator.Evaluation
import BatteryIndicator.Loading
import BatteryIndicator.Report.Source
import BatteryIndicator.Settings.Source
/-!
# CommandLine — the commands and what they print

`status` shows once what the tray would show, `themes list` and `themes validate` help with theme files, and `run` starts
the indicator.  A failure of the indicator's own kinds, or a file that is not there, is told on the error output; any
other failure escapes.  Either way the exit code is one.  The words of a command line that is a misuse are not acted on
at all.
-/
namespace BatteryIndicator
namespace CommandLine

/-- What a command came to. -/
structure Outcome where
  exitCode : Nat
  output : String
  errors : String
  /-- a failure that escaped -/
  failure : Option Failure
  effects : List Effect

inductive Answer where
  | misuse
  | help
  | ended (o : Outcome)

/-! ## Printing -/

/-- A letter after an escape, a bracket, and semicolons, question marks and digits: what is left of the text. -/
def colorEnd? (s : List Char) : Option (List Char) :=
  match s.dropWhile fun c => c == ';' || c == '?' || c.isDigit with
  | c :: rest => if c.isAlpha then some rest else none
  | [] => none

theorem length_colorEnd? {s rest : List Char} (h : colorEnd? s = some rest) : rest.length < s.length := by
  unfold colorEnd? at h
  split at h
  · next c t hd =>
    have := (List.dropWhile_sublist (l := s) fun c => c == ';' || c == '?' || c.isDigit).length_le
    rw [hd] at this
    split at h
    · simp only [Option.some.injEq] at h
      subst h
      simp only [List.length_cons] at this
      omega
    · simp at h
  · simp at h

/-- A text without the sequences that colour it. -/
def withoutColors (s : List Char) : List Char :=
  match s with
  | [] => []
  | '\x1b' :: '[' :: t =>
    match _h : colorEnd? t with
    | some rest => withoutColors rest
    | none => '\x1b' :: '[' :: withoutColors t
  | c :: t => c :: withoutColors t
termination_by s.length
decreasing_by
  · have := length_colorEnd? _h; simp only [List.length_cons]; omega
  · simp only [List.length_cons]; omega
  · simp only [List.length_cons]; omega

/-- Lines as they are printed. -/
def printed (lines : List String) : String :=
  String.join (lines.map fun l => String.ofList (withoutColors l.toList) ++ "\n")

/-- The characters before the first half of a surrogate pair, and the halves, each with the characters up to the next. -/
def pieces : RawText → List Char × List (Fin 0x800 × List Char)
  | [] => ([], [])
  | .char c :: s =>
    let r := pieces s
    (c :: r.1, r.2)
  | .half n :: s =>
    let r := pieces s
    ([], (n, r.1) :: r.2)

/-- A raw text without the sequences that colour it.  No half is part of one. -/
def withoutColorsRaw (s : RawText) : RawText :=
  let r := pieces s
  (withoutColors r.1).map .char ++ r.2.flatMap fun p => .half p.1 :: (withoutColors p.2).map .char

/-- Prints lines.  A line that is not whole cannot be printed, and no line after it is. -/
def printAll : List RawText → String × Option Failure
  | [] => ("", none)
  | l :: ls =>
    let line := withoutColorsRaw l
    match line.whole? with
    | none => ("", some (.unencodable line))
    | some text =>
      let rest := printAll ls
      (text ++ "\n" ++ rest.1, rest.2)

/-! ## Endings -/

def succeed (lines errors : List String) (effects : List Effect) : Outcome :=
  ⟨0, printed lines, printed errors, none, effects⟩

/-- A failure that is told. -/
def report (f : Failure) (effects : List Effect) : Outcome := ⟨1, "", printed [f.message], none, effects⟩

/-- A failure that escapes. -/
def escape (f : Failure) (effects : List Effect) : Outcome := ⟨1, "", "", some f, effects⟩

/-- Whether a failure to start up is told: those of the indicator's own kinds, and files that are not there. -/
def isTold : Failure → Bool
  | .shapeMismatch .. | .invalidDirection _ | .noDefaultTheme _ | .missingHome | .settingsNotFound _
  | .settingsUnreadable | .settingsInvalid _ | .script .. | .notDelivered => true
  | .system e => e.code == SystemError.absent
  | _ => false

def endWith (told : Failure → Bool) (f : Failure) (effects : List Effect) : Outcome :=
  if told f then report f effects else escape f effects

/-! ## Starting up -/

/-- The settings, and the themes that they lead to. -/
structure Started where
  settings : Settings
  registry : Registry (Theme Step)
deriving DecidableEq

def startUp (env : Environment) (settings : Option String) (fs : Files) : Except Failure Started × List Effect :=
  match Settings.loadForUser env (settings.map .ofString) fs with
  | .error f => (.error f, [])
  | .ok s =>
    match Locations.discover s.systemDirectory env with
    | .error f => (.error f, [])
    | .ok l =>
      let loaded := Loading.load s.iconDirectory l fs .empty
      (loaded.1.map fun _ => ⟨s, loaded.2.1⟩, loaded.2.2)

/-! ## Commands -/

/-- The lines that show a reading. -/
def statusLines (name : String) (r : Reading) (e : Evaluation) : List RawText :=
  [.ofString ("Theme: " ++ name),
   .ofString ("Level: " ++ Number.fixed 1 r.level ++ "% (" ++ r.direction.name ++ ")"),
   .ofString "Icon: " ++ (e.icon.map Path.raw).getD "hidden"] ++ r.lines.map fun l => .ofString ("  " ++ l)

/-- Shows a reading with the active theme. -/
def showReading (started : Started) (r : Reading) (effects : List Effect) : Outcome :=
  match started.registry.active with
  | .error f => escape f effects
  | .ok t =>
    let e := (Evaluation.evaluate t r.direction r.level .start).1
    let shown := printAll (statusLines (started.registry.default?.getD "") r e)
    ⟨if shown.2.isSome then 1 else 0, shown.1, "", shown.2, effects⟩

/-- Where a reading comes from: a file, or the battery command. -/
def readBattery (started : Started) (reportFile : Option String) (outcome : Command.Outcome) (fs : Files) :
    Except Failure (Option Reading) × List Effect :=
  match reportFile with
  | some file => ((fs.readText (.ofString file)).bind Report.read, [])
  | none => Report.ofCommand started.settings.batteryCommand outcome

def status (env : Environment) (settings reportFile : Option String) (outcome : Command.Outcome) (fs : Files) :
    Outcome :=
  match startUp env settings fs with
  | (.error f, effects) => endWith isTold f effects
  | (.ok started, effects) =>
    match readBattery started reportFile outcome fs with
    | (.error f, more) => escape f (effects ++ more)
    | (.ok none, more) => ⟨1, printed ["No battery found"], "", none, effects ++ more⟩
    | (.ok (some r), more) => showReading started r (effects ++ more)

/-- The line of a theme; the default one is marked. -/
def themeLine (default? : Option String) (name : String) : String :=
  (if default? = some name then "*" else " ") ++ " " ++ name

def listThemes (env : Environment) (settings : Option String) (fs : Files) : Outcome :=
  match startUp env settings fs with
  | (.error f, effects) => endWith isTold f effects
  | (.ok started, effects) =>
    succeed (started.registry.names.map (themeLine started.registry.default?)) [] effects

/-- Whether a failure to validate is told: a step set of the wrong size, and whatever the operating system refuses. -/
def isToldOfFile : Failure → Bool
  | .shapeMismatch .. | .system _ => true
  | _ => false

/-- What is said of a theme file that was read to its end. -/
def verdict (themes : List (String × Theme Step)) : Option String → String
  | none => "No themes found"
  | some last =>
    let r : Registry (Theme Step) := Registry.empty.registerAll themes
    "✅ " ++ toString r.size ++ " theme(s) valid, last is " ++ Text.quoted last

def validate (file : String) (fs : Files) : Outcome :=
  match Loading.readThemes Settings.defaultIconDirectory (.ofString file) fs with
  | .error f => endWith isToldOfFile f []
  | .ok reading =>
    let effects := reading.problems.map Problem.effect
    match reading.result with
    | .error f => endWith isToldOfFile f effects
    | .ok last =>
      succeed [verdict reading.themes last] (reading.problems.map fun p => "warning: " ++ p.message) effects

/-- Starts the indicator.  Where there is no tray to put it in, that is as far as it comes. -/
def run (env : Environment) (settings : Option String) (fs : Files) : Outcome :=
  match startUp env settings fs with
  | (.error f, effects) => endWith isTold f effects
  | (.ok _, effects) => escape (.other "no tray to show the indicator in") effects

/-- An option that names a file must name one that is there, once its path is in its normal form. -/
def isFile (fs : Files) (path : String) : Bool :=
  match fs.find (Path.ofString path).raw with
  | .ok (.file _) => true
  | _ => false

/-- What can be a path at all: a text without the character zero. -/
def isPath (path : String) : Bool := !path.contains '\x00'

/-- What a request comes to.  `outcome` is what comes of the battery command if it is run. -/
def perform (env : Environment) (outcome : Command.Outcome) (fs : Files) : Request → Answer
  | .help => .help
  | .validate file => if isPath file then .ended (validate file fs) else .misuse
  | .run settings => if settings.all (isFile fs) then .ended (run env settings fs) else .misuse
  | .listThemes settings => if settings.all (isFile fs) then .ended (listThemes env settings fs) else .misuse
  | .status settings report =>
    if settings.all (isFile fs) && report.all (isFile fs) then .ended (status env settings report outcome fs)
    else .misuse

/-- What a command line comes to. -/
def execute (words : List String) (env : Environment) (outcome : Command.Outcome) (fs : Files) : Answer :=
  match Request.ofWords? words with
  | none => .misuse
  | some request => perform env outcome fs request

end CommandLine
end BatteryIndicator
