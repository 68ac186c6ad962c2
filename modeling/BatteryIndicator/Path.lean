import BatteryIndicator.Text.RawText
/-!
# Path — file paths by their components

A path is a root and a list of components.  The root is empty for a relative path; two leading slashes, but not three,
make a root of their own.  Empty components and single dots are left out, double dots are kept.  A component need not be
a whole text, so a path can be shown (`Path.text`) even where it cannot be written as it stands (`Path.raw`).
-/
namespace BatteryIndicator

inductive Path.Root where
  | relative
  | slash
  | twoSlashes
deriving DecidableEq, Inhabited

structure Path where
  root : Path.Root
  parts : List RawText
deriving DecidableEq, Inhabited

namespace Path

/-- The pieces of a text between slashes. -/
def cutSlashes : RawText → List RawText
  | [] => [[]]
  | c :: s =>
    if c = .char '/' then [] :: cutSlashes s
    else
      match cutSlashes s with
      | [] => [[c]]
      | p :: ps => (c :: p) :: ps

def rootOf : RawText → Root
  | .char '/' :: .char '/' :: .char '/' :: _ => .slash
  | .char '/' :: .char '/' :: _ => .twoSlashes
  | .char '/' :: _ => .slash
  | _ => .relative

def ofRaw (s : RawText) : Path := ⟨rootOf s, (cutSlashes s).filter fun p => p != [] && p != [.char '.']⟩

def ofString (s : String) : Path := ofRaw s

def Root.text : Root → String
  | .relative => ""
  | .slash => "/"
  | .twoSlashes => "//"

/-- The path as it stands; the path without root and components is a dot. -/
def raw (p : Path) : RawText :=
  match p.root, p.parts with
  | .relative, [] => [.char '.']
  | r, ps => RawText.ofString r.text ++ [.char '/'].intercalate ps

/-- The path as it is shown. -/
def text (p : Path) : String := p.raw.escaped

/-- The path seen from another one: an absolute path stays, a relative one is appended. -/
def join (base p : Path) : Path :=
  match p.root with
  | .relative => ⟨base.root, base.parts ++ p.parts⟩
  | _ => p

/-- A name within a directory. -/
def child (base : Path) (name : String) : Path := base.join (ofString name)

end Path
end BatteryIndicator
