import BatteryIndicator.Yaml.Scalar
import BatteryIndicator.Yaml.Tag
/-!
# Graph — the nodes of a document

The nodes of a document are numbered, and a collection holds the numbers of its items, so a node that has an anchor may
stand in several places and even within itself.  Merging (`flatten`) replaces an entry under a merge key by the entries
of the mappings that are its value; these come first, so that the entries around it count.  A key that is the sign of the
default value is a text from then on.
-/
namespace BatteryIndicator
namespace Yaml

/-- A key and its value. -/
abbrev Entry := Nat × Nat

inductive Content where
  | scalar (s : Scalar)
  | sequence (items : List Nat)
  | mapping (entries : List Entry)
deriving Inhabited

structure Node where
  tag : Tag
  content : Content
deriving Inhabited

structure Graph where
  nodes : Array Node
deriving Inhabited

namespace Graph

def empty : Graph := ⟨#[]⟩

def node (n : Nat) (g : Graph) : Node := g.nodes.getD n ⟨.other, .sequence []⟩

def tag (n : Nat) (g : Graph) : Tag := (g.node n).tag

/-- A new node and its number. -/
def add (v : Node) (g : Graph) : Nat × Graph := (g.nodes.size, ⟨g.nodes.push v⟩)

def put (n : Nat) (v : Node) (g : Graph) : Graph := ⟨g.nodes.setIfInBounds n v⟩

def setContent (n : Nat) (c : Content) (g : Graph) : Graph := g.put n { g.node n with content := c }

def setTag (n : Nat) (t : Tag) (g : Graph) : Graph := g.put n { g.node n with tag := t }

/-- The entries of a mapping; other nodes have none. -/
def entries (n : Nat) (g : Graph) : List Entry :=
  match (g.node n).content with
  | .mapping es => es
  | _ => []

/-- How many nodes may be looked through on the way to one, with one call for each.  As for nested nodes, this was
measured, and with more callers it is less. -/
def reach : Nat := 980

/-- The scalar that a node holds, where a scalar is wanted: a mapping may have one under the default key.  The first
argument bounds the number of mappings on the way. -/
def scalarWithin : Nat → Nat → Graph → Option Scalar
  | 0, _, _ => none
  | depth + 1, n, g =>
    match (g.node n).content with
    | .scalar s => some s
    | .sequence _ => none
    | .mapping es =>
      match es.find? fun e => g.tag e.1 == .default with
      | some e => scalarWithin depth e.2 g
      | none => none

def scalar? (n : Nat) (g : Graph) : Option Scalar := scalarWithin reach n g

/-! ## Merging

`flatten` works on the entries as they are at each moment, for a mapping may be merged into itself. -/

/-- Flattens mappings one after the other: the entries of each after its turn.  A node that is no mapping is a fault. -/
def flattenEach (flatten : Nat → Graph → Option Graph) : List Nat → Graph → Option (List (List Entry) × Graph)
  | [], g => some ([], g)
  | n :: ns, g =>
    match (g.node n).content with
    | .mapping _ => do
      let g ← flatten n g
      let rest ← flattenEach flatten ns g
      some (g.entries n :: rest.1, rest.2)
    | _ => none

/-- The entries that the value of a merge key gives: those of a mapping, or those of a list of mappings, the last mapping
first. -/
def mergedEntries (flatten : Nat → Graph → Option Graph) (n : Nat) (g : Graph) : Option (List Entry × Graph) :=
  match (g.node n).content with
  | .mapping _ => (flatten n g).map fun g => (g.entries n, g)
  | .sequence items => (flattenEach flatten items g).map fun r => (r.1.reverse.flatten, r.2)
  | .scalar _ => none

/-- Goes through the entries of a mapping from a position on, and puts what was merged in front of them at the end.  The
first number bounds the steps. -/
def mergeFrom (flatten : Nat → Graph → Option Graph) (n : Nat) :
    (steps : Nat) → (position : Nat) → List Entry → Graph → Option Graph
  | 0, _, _, _ => none
  | steps + 1, i, merged, g =>
    match (g.entries n)[i]? with
    | none => some (if merged.isEmpty then g else g.setContent n (.mapping (merged ++ g.entries n)))
    | some (k, v) =>
      match g.tag k with
      | .merge => do
        let r ← mergedEntries flatten v (g.setContent n (.mapping ((g.entries n).eraseIdx i)))
        mergeFrom flatten n steps i (merged ++ r.1) r.2
      | .default => mergeFrom flatten n steps (i + 1) merged (g.setTag k .text)
      | _ => mergeFrom flatten n steps (i + 1) merged g

/-- More steps than the entries of any document that can be read. -/
def stepLimit : Nat := Nat.pow 2 24

def flattenWithin : Nat → Nat → Graph → Option Graph
  | 0, _, _ => none
  | depth + 1, n, g => mergeFrom (flattenWithin depth) n stepLimit 0 [] g

/-- Merges what is to be merged into a mapping. -/
def flatten (n : Nat) (g : Graph) : Option Graph := flattenWithin reach n g

end Graph
end Yaml
end BatteryIndicator
