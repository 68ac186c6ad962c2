import BatteryIndicator.Yaml.Meaning
import BatteryIndicator.Yaml.Node
import BatteryIndicator.Yaml.Unordered
/-!
# Document — the value that a text writes

The tokens of a text make a graph of nodes, and the graph is a value.  Scalars have their values at once.  A collection
waits until all nodes met before it are done; then a mapping is flattened, and its keys and values are met in their
order.  A text with a character that is not for texts, with a fault in its form, or with a node that has no value is no
document.
-/
namespace BatteryIndicator
namespace Yaml

/-- The characters that a document may have. -/
def textRanges : List (Nat × Nat) :=
  [(0x9, 0xa), (0xd, 0xd), (0x20, 0x7e), (0x85, 0x85), (0xa0, 0xd7ff), (0xe000, 0xfffd), (0x10000, 0x10ffff)]

/-- How far the values of a graph are known. -/
structure Progress where
  graph : Graph
  /-- the values of the scalars that were met, and marks for the collections that were -/
  known : Array (Option Value)
  /-- the collections that wait, the last one first -/
  waiting : List Nat

namespace Progress

def start (g : Graph) : Progress := ⟨g, Array.replicate g.nodes.size none, []⟩

def valueOf (n : Nat) (p : Progress) : Option Value := p.known.getD n none

def learn (n : Nat) (v : Value) (p : Progress) : Progress := { p with known := p.known.setIfInBounds n (some v) }

/-- The value of a node that is no collection.  A date must be a scalar itself. -/
def scalar? (n : Nat) (p : Progress) : Option Value :=
  let v := p.graph.node n
  match v.tag, v.content with
  | .time, .sequence _ | .time, .mapping _ => none
  | t, _ => p.graph.scalar? n >>= Meaning.value? t

/-- Meets a node. -/
def meet? (n : Nat) (p : Progress) : Option Progress :=
  if (p.valueOf n).isSome then some p
  else if (p.graph.tag n).isCollection then some { p.learn n .foreign with waiting := n :: p.waiting }
  else (p.scalar? n).map fun v => p.learn n v

def meetAll? : List Nat → Progress → Option Progress
  | [], p => some p
  | n :: ns, p => p.meet? n >>= meetAll? ns

/-- Meets the keys and values of entries.  A collection cannot be a key. -/
def meetEntries? : List Entry → Progress → Option Progress
  | [], p => some p
  | (k, v) :: es, p => do
    let p ← p.meet? k
    if (p.graph.tag k).isCollection then none
    let p ← p.meet? v
    meetEntries? es p

/-- Meets the items of a list of pairs. -/
def meetPairs? : List Nat → Progress → Option Progress
  | [], p => some p
  | n :: ns, p =>
    match (p.graph.node n).content with
    | .mapping [(k, v)] => do
      let p ← p.meet? k
      let p ← p.meet? v
      meetPairs? ns p
    | _ => none

/-- Goes into a collection. -/
def enter? (n : Nat) (p : Progress) : Option Progress :=
  let v := p.graph.node n
  match v.tag, v.content with
  | .list, .sequence items => p.meetAll? items
  | .pairs, .sequence items => p.meetPairs? items
  | .mapping, .mapping _ | .set, .mapping _ => do
    let g ← p.graph.flatten n
    meetEntries? (g.entries n) { p with graph := g }
  | _, _ => none

/-- Goes into the collections of a queue, and then into those that were met on the way.  The first argument bounds the
number of collections. -/
def enterAll? : Nat → List Nat → Progress → Option Progress
  | 0, _, _ => none
  | n + 1, queue, p =>
    match if p.waiting.isEmpty then queue else queue ++ p.waiting.reverse with
    | [] => some p
    | v :: queue => enter? v { p with waiting := [] } >>= enterAll? n queue

/-- The value of a node whose collections are entered.  Collections deeper than the first argument are left out, for no
setting looks that far. -/
def value (p : Progress) : Nat → Nat → Value
  | 0, n => (p.valueOf n).getD .foreign
  | depth + 1, n =>
    let v := p.graph.node n
    match v.tag, v.content with
    | .list, .sequence items => .list (items.map fun i => value p depth i)
    | .pairs, .sequence items => .list (items.map fun _ => .foreign)
    | .mapping, .mapping es => .mapping (es.map fun e => (value p 0 e.1, value p depth e.2))
    | .set, .mapping es => .set (Unordered.items ((es.map Prod.fst).eraseDups.map fun k => value p 0 k))
    | _, _ => (p.valueOf n).getD .foreign

end Progress

/-- Settings are collections of collections, and no more. -/
def valueDepth : Nat := 2

/-- The value of the outermost node of a graph. -/
def Graph.value? (root : Nat) (g : Graph) : Option Value := do
  let p ← (Progress.start g).meet? root
  let p ← p.enterAll? (g.nodes.size + 1) []
  some (p.value valueDepth root)

/-- The value of a document; a text without a document has the value of nothing. -/
def read? (text : String) : Option Value := do
  let cs := text.toList
  if !cs.all (Text.inRanges textRanges) then none
  match ← tokens? cs >>= Node.ofTokens? with
  | none => some .null
  | some (root, g) => g.value? root

end Yaml
end BatteryIndicator
