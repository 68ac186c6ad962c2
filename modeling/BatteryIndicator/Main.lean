import BatteryIndicator.CommandLine
/-!
# Main — the command line

The files that a command may look at are read before it is carried out, and so are the variables of the environment.
Other programs are not started and scripts are not run here: without a file to read a report from there is no battery.
-/
namespace BatteryIndicator
namespace Main

/-- The entry at a path, if there is one. -/
def entry? (path : String) : IO (Option Files.Entry) := do
  try
    return some (.file (.text (← IO.FS.readBinFile path)))
  catch
    | .inappropriateType .. => return some .directory
    | _ => return none

/-- The place that components lead to from a place. -/
def place (here components : List String) : List String :=
  components.foldl (fun h p => if p = "" || p = "." then h else if p = ".." then h.dropLast else h ++ [p]) here

/-- The components of a path that is a text. -/
def componentsOf (path : String) : List String := (Files.components path).map RawText.escaped

/-- What is found at a path and on the way to it. -/
def along (working : List String) (path : String) : IO (List (List String × Files.Entry)) := do
  let absolute := path.front = '/'
  let parts := componentsOf path
  let mut found := []
  for n in List.range (parts.length + 1) do
    let text := String.intercalate "/" (parts.take n)
    match ← entry? (if text.isEmpty then (if absolute then "/" else ".") else text) with
    | some e => found := found ++ [(place (if absolute then [] else working) (parts.take n), e)]
    | none => pure ()
  return found

def snapshot (paths : List String) : IO Files := do
  let working := place [] (componentsOf ((← IO.getEnv "PWD").getD ""))
  return ⟨(← paths.mapM (along working)).flatten, working⟩

/-- The variables of the environment with these names. -/
def lookUp (names : List String) : IO Environment := do
  let found ← names.mapM fun n => do return (← IO.getEnv n).map (n, ·)
  return found.filterMap id

/-- The names of the references in a text. -/
def references : List Char → List String
  | [] => []
  | c :: s => ((Environment.reference? (c :: s)).map fun r => String.ofList r.1).toList ++ references s

/-- The settings file that a request names. -/
def settingsOf : CommandLine.Request → Option String
  | .run settings | .listThemes settings | .status settings _ => settings
  | .validate _ | .help => none

/-- The other files that a request names. -/
def operandsOf : CommandLine.Request → List String
  | .status _ report => report.toList
  | .validate file => [file]
  | _ => []

/-- The files in which the settings may be. -/
def settingsFiles (env : Environment) : List String :=
  (env.nonempty? Settings.pathVariable).toList ++
    match Locations.userDirectory env with
    | .ok user => [(Locations.settingsIn user).text]
    | .error _ => []

/-- The theme files that settings lead to. -/
def themeFiles (env : Environment) (settings : Except Failure Settings) : List String :=
  match settings.bind fun s => Locations.discover s.systemDirectory env with
  | .ok l => [(Locations.themesIn l.system).text, (Locations.themesIn l.user).text]
  | .error _ => []

def usage : String := "usage: run [-s FILE] | status [-s FILE] [-r FILE] | themes list [-s FILE] | themes validate FILE"

/-- Carries out a request. -/
def carryOut (request : CommandLine.Request) : IO UInt32 := do
  let known ← lookUp ["XDG_CONFIG_HOME", "HOME", Settings.pathVariable]
  let paths := (settingsOf request).toList ++ operandsOf request ++ settingsFiles known
  let files ← snapshot paths
  let texts := paths.filterMap fun p => (files.readText (.ofString p)).toOption
  let env := known ++ (← lookUp (texts.flatMap fun s => references s.toList))
  let settings := Settings.loadForUser env ((settingsOf request).map .ofString) files
  let files ← snapshot (paths ++ themeFiles env settings)
  let noProgram : Command.Outcome := .notStarted ⟨SystemError.absent, "No such file or directory", none⟩
  match CommandLine.perform env noProgram files request with
  | .misuse => IO.eprintln usage; return 2
  | .help => IO.println usage; return 0
  | .ended o =>
    for line in o.effects.filterMap Effect.log? do IO.eprintln line
    IO.print o.output
    IO.eprint o.errors
    if let some f := o.failure then IO.eprintln f.message
    return o.exitCode.toUInt32

end Main
end BatteryIndicator

def main (args : List String) : IO UInt32 := do
  match BatteryIndicator.CommandLine.Request.ofWords? args with
  | some request => BatteryIndicator.Main.carryOut request
  | none => IO.eprintln BatteryIndicator.Main.usage; return 2
