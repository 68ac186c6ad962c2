import BatteryIndicator.Script
import BatteryIndicator.Text.Encoding
/-!
# Files — a tree of files, and what can be asked of it

A path leads from the root of the tree, or from the working directory, to an entry.  It is followed component by
component: every component but the last must be a directory, and two dots lead back up.  A path that leads nowhere is a
refusal of the operating system.  A path that is no row of bytes, or has a zero among them, leads nowhere.
-/
namespace BatteryIndicator

/-- What a file holds: text as its bytes, or a script. -/
inductive Content where
  | text (bytes : ByteArray)
  | script (calls : Script)

inductive Files.Entry where
  | file (content : Content)
  | directory

structure Files where
  /-- entries under their components; the directories on the way to an entry are there too -/
  entries : List (List String × Files.Entry)
  /-- the components of the directory that relative paths start from -/
  working : List String

namespace Files

/-! ## Finding an entry -/

/-- The entry under components. -/
def at? (parts : List String) (fs : Files) : Option Entry :=
  match fs.entries.lookup parts with
  | some e => some e
  | none =>
    if parts.isPrefixOf fs.working || fs.entries.any fun e => parts.isPrefixOf e.1 then some .directory else none

/-- Why a path leads nowhere. -/
inductive Refusal where
  | absent
  | notADirectory
  | isDirectory
  | nameTooLong

def Refusal.error (path : RawText) : Refusal → SystemError
  | .absent => ⟨SystemError.absent, "No such file or directory", some path⟩
  | .notADirectory => ⟨20, "Not a directory", some path⟩
  | .isDirectory => ⟨21, "Is a directory", some path⟩
  | .nameTooLong => ⟨36, "File name too long", some path⟩

/-- The most bytes of a component. -/
def componentLimit : Nat := 255

/-- The most bytes of a path. -/
def pathLimit : Nat := 4095

/-- Follows components from a place in the tree. -/
def follow (fs : Files) (here : List String) : List RawText → Except Refusal Entry
  | [] =>
    match fs.at? here with
    | some e => .ok e
    | none => .error .absent
  | p :: ps =>
    match fs.at? here with
    | none => .error .absent
    | some (.file _) => .error .notADirectory
    | some .directory =>
      if p = "" || p = "." then follow fs here ps
      else if p = ".." then follow fs here.dropLast ps
      else if componentLimit < p.size then .error .nameTooLong
      else
        match p.name? with
        | some name => follow fs (here ++ [name]) ps
        | none => .error .absent

/-- The components of a path as it is written, with those that change nothing. -/
def components (path : RawText) : List RawText := Path.cutSlashes path

/-- The place that a path starts from. -/
def start (path : RawText) (fs : Files) : List String := if path.head? = some (.char '/') then [] else fs.working

/-- The entry that a path as it stands leads to. -/
def find (path : RawText) (fs : Files) : Except Refusal Entry :=
  if path.isEmpty || !path.all CodePoint.isPathPart then .error .absent
  else if pathLimit < path.size then .error .nameTooLong
  else fs.follow (fs.start path) (components path)

/-! ## Questions -/

/-- Whether a path leads somewhere that satisfies a test.  A path that is too long is a failure. -/
def ask (test : Entry → Bool) (path : Path) (fs : Files) : Except Failure Bool :=
  match fs.find path.raw with
  | .ok e => .ok (test e)
  | .error .nameTooLong => .error (.system (Refusal.nameTooLong.error path.raw))
  | .error _ => .ok false

def fileExists (path : Path) (fs : Files) : Except Failure Bool :=
  fs.ask (fun | .file _ => true | .directory => false) path

def pathExists (path : Path) (fs : Files) : Except Failure Bool := fs.ask (fun _ => true) path

/-- The content of a file. -/
def content (path : Path) (fs : Files) : Except Failure Content :=
  match fs.find path.raw with
  | .ok (.file c) => .ok c
  | .ok .directory => .error (.system (Refusal.isDirectory.error path.raw))
  | .error r => .error (.system (r.error path.raw))

/-- The text of bytes, with every line end as a single line feed. -/
def decode (bytes : ByteArray) : Except Failure String :=
  match String.fromUTF8? bytes with
  | some s => .ok (String.ofList (Text.unifyNewlines s.toList))
  | none => .error .undecodable

/-- The lines that can be read of bytes, each with its end, and the failure that comes after them, if there is one. -/
def linesOf (bytes : ByteArray) : List String × Option Failure :=
  match decode bytes with
  | .ok s => ((Text.fileLines s.toList).map String.ofList, none)
  | .error f => ((Text.completeLines (Text.readablePart bytes.toList)).map String.ofList, some f)

/-- The text of a file.  A script is no text to be read. -/
def readText (path : Path) (fs : Files) : Except Failure String :=
  match fs.content path with
  | .ok (.text bytes) => decode bytes
  | .ok (.script _) => .ok ""
  | .error f => .error f

/-- The script in a file.  A file without calls is a script that does nothing. -/
def readScript (path : Path) (fs : Files) : Except Failure Script :=
  match fs.content path with
  | .ok (.script calls) => .ok calls
  | .ok (.text _) => .ok []
  | .error f => .error f

/-- The lines that can be read of a file, and the failure that comes after them, if there is one. -/
def readLines (path : Path) (fs : Files) : Except Failure (List String × Option Failure) :=
  match fs.content path with
  | .ok (.text bytes) => .ok (linesOf bytes)
  | .ok (.script _) => .ok ([], none)
  | .error f => .error f

end Files
end BatteryIndicator
