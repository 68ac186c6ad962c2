/-!
# Tag — the kinds of nodes

A tag tells what a node is to be read as.  The tags of the format have names of their own under one front; with any other
name a node has no value.
-/
namespace BatteryIndicator
namespace Yaml

inductive Tag where
  | null
  | flag
  | integer
  | real
  | binary
  | time
  | text
  | list
  /-- a list of pairs, each written as a mapping with one entry -/
  | pairs
  | mapping
  | set
  /-- a key whose value is merged into the mapping -/
  | merge
  /-- a key whose value stands for the mapping where a scalar is wanted -/
  | default
  | other
deriving DecidableEq, Inhabited

namespace Tag

/-- The front of the names of the format's tags. -/
def front : String := "tag:yaml.org,2002:"

def names : List (String × Tag) :=
  [("null", .null), ("bool", .flag), ("int", .integer), ("float", .real), ("binary", .binary), ("timestamp", .time),
   ("str", .text), ("seq", .list), ("omap", .pairs), ("pairs", .pairs), ("map", .mapping), ("set", .set),
   ("merge", .merge), ("value", .default)]

/-- The tag with a full name. -/
def ofName (name : String) : Tag :=
  match names.find? fun n => front ++ n.1 == name with
  | some n => n.2
  | none => .other

/-- Whether values with this tag are collections. -/
def isCollection : Tag → Bool
  | .list | .pairs | .mapping | .set => true
  | _ => false

end Tag
end Yaml
end BatteryIndicator
