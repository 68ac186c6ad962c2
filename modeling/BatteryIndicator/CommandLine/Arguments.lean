/-!
# Arguments — what a command line asks for

The first word is a command, or the group `themes` and a command of it; no word at all runs the indicator.  After the
command come options and operands in any order.  An option with a value takes the rest of its word, after an equals sign
if the option is a long one, or else the whole next word; of several values the last one counts.  After two hyphens all
words are operands.  Words that fit no command are a misuse.
-/
namespace BatteryIndicator
namespace CommandLine

/-- What a command line asks for.  Paths are as they were written. -/
inductive Request where
  | run (settings : Option String)
  | status (settings report : Option String)
  | listThemes (settings : Option String)
  | validate (file : String)
  | help
deriving DecidableEq, Inhabited

inductive Switch where
  | settings
  | report
  | debug
  | help
deriving DecidableEq

namespace Switch

def takesValue : Switch → Bool
  | .settings | .report => true
  | .debug | .help => false

def long : Switch → String
  | .settings => "--settings"
  | .report => "--report"
  | .debug => "--debug"
  | .help => "--help"

def short? : Switch → Option Char
  | .settings => some 's'
  | .report => some 'r'
  | .debug | .help => none

end Switch

/-- What the words after a command say. -/
structure Arguments where
  settings : Option String
  report : Option String
  help : Bool
  operands : List String
deriving DecidableEq, Inhabited

namespace Arguments

def empty : Arguments := ⟨none, none, false, []⟩

/-- Notes a switch and its value; a switch without one has none. -/
def note (s : Switch) (value : String) (a : Arguments) : Arguments :=
  match s with
  | .settings => { a with settings := some value }
  | .report => { a with report := some value }
  | .debug => a
  | .help => { a with help := true }

end Arguments

/-- A word by its form. -/
inductive Word where
  /-- two hyphens -/
  | stop
  | operand
  | switch (s : Switch)
  /-- a switch that takes a value, and the value if it is in the same word -/
  | valued (s : Switch) (value : Option String)
  | misuse

namespace Word

def isOption : List Char → Bool
  | '-' :: _ :: _ => true
  | _ => false

/-- A switch by its first letter; it takes a value, and what follows the letter is one. -/
def ofShort (accepted : List Switch) (letter : Char) (value : List Char) : Word :=
  match accepted.find? fun s => s.short? == some letter with
  | some s => .valued s (if value.isEmpty then none else some (String.ofList value))
  | none => .misuse

def ofOption (accepted : List Switch) (word : List Char) : Word :=
  let name := word.takeWhile (· != '=')
  let value := match word.dropWhile (· != '=') with
    | _ :: v => some (String.ofList v)
    | [] => none
  match accepted.find? fun s => s.long == String.ofList name, word with
  | some s, _ => if s.takesValue then .valued s value else if value.isSome then .misuse else .switch s
  | none, '-' :: '-' :: _ => .misuse
  | none, '-' :: letter :: rest => ofShort accepted letter rest
  | none, _ => .misuse

def ofText (accepted : List Switch) (word : String) : Word :=
  if word = "--" then .stop
  else if isOption word.toList then ofOption accepted word.toList
  else .operand

end Word

namespace Arguments

/-- Reads the words after a command. -/
def read? (accepted : List Switch) : List String → Arguments → Option Arguments
  | [], a => some a
  | word :: words, a =>
    match Word.ofText accepted word with
    | .stop => some { a with operands := a.operands ++ words }
    | .operand => read? accepted words { a with operands := a.operands ++ [word] }
    | .switch s => read? accepted words (a.note s "")
    | .valued s (some value) => read? accepted words (a.note s value)
    | .valued s none =>
      match words with
      | [] => none
      | value :: words => read? accepted words (a.note s value)
    | .misuse => none

end Arguments

namespace Request

/-- The arguments of a command that takes a number of operands. -/
def arguments? (accepted : List Switch) (operands : Nat) (words : List String) : Option Arguments := do
  let a ← Arguments.read? (.help :: accepted) words .empty
  if a.help || a.operands.length = operands then some a else none

/-- What is asked for, unless it is help. -/
def unlessHelp (a : Arguments) (request : Request) : Request := if a.help then .help else request

/-- How a list of words starts. -/
inductive Start where
  /-- no word at all -/
  | nothing
  | command (name : String) (rest : List String)
  | help

/-- How a list of words starts: before a command there may be two hyphens, and options that ask for help.  `none` is a
misuse. -/
def start? : List String → Option Start
  | [] | ["--"] => some .nothing
  | "--" :: name :: rest => some (.command name rest)
  | "--help" :: words => (start? words).map fun _ => .help
  | name :: rest => if Word.isOption name.toList then none else some (.command name rest)

def ofThemes? (words : List String) : Option Request := do
  match ← start? words with
  | .nothing => none
  | .help => some .help
  | .command "list" words =>
    let a ← arguments? [.settings] 0 words
    some (unlessHelp a (.listThemes a.settings))
  | .command "validate" words =>
    let a ← arguments? [] 1 words
    some (unlessHelp a (.validate (a.operands.headD "")))
  | .command .. => none

/-- What a command line asks for; nothing if it is a misuse. -/
def ofWords? (words : List String) : Option Request := do
  match ← start? words with
  | .nothing => some (.run none)
  | .help => some .help
  | .command "run" words =>
    let a ← arguments? [.settings, .debug] 0 words
    some (unlessHelp a (.run a.settings))
  | .command "status" words =>
    let a ← arguments? [.settings, .report, .debug] 0 words
    some (unlessHelp a (.status a.settings a.report))
  | .command "themes" words => ofThemes? words
  | .command .. => none

end Request
end CommandLine
end BatteryIndicator
