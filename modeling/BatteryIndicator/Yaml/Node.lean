import BatteryIndicator.Entries
import BatteryIndicator.Yaml.Graph
import BatteryIndicator.Yaml.Literal
import BatteryIndicator.Yaml.TokenStream
/-!
# Node — reading the graph of a document

The tokens of a document write scalars, sequences and mappings, each with the tag it was given, if any.  An anchor names a
node and an alias stands for the node that was named before, be it still open; no two nodes of a document have the same
anchor.  Nodes may be nested up to a depth of `nestingLimit`.  A text holds one document at most.
-/
namespace BatteryIndicator
namespace Yaml

namespace Node

/-- The tokens still to be read, the nodes so far, those of them that have an anchor, and what the handles of tags stand
for. -/
structure Reader where
  tokens : List Token
  graph : Graph
  anchors : Entries String Nat
  handles : Entries String String

namespace Reader

def head (r : Reader) : Option Token := r.tokens.head?

def next (r : Reader) : Reader := { r with tokens := r.tokens.tail }

/-- Whether the next token is one of these. -/
def seesOneOf (ts : List Token) (r : Reader) : Bool :=
  match r.head with
  | some t => ts.contains t
  | none => false

def sees (t : Token) (r : Reader) : Bool := r.head == some t

/-- Past a token that must be there. -/
def expect? (t : Token) (r : Reader) : Option Reader := if r.sees t then some r.next else none

/-- Whether the next token starts a document or is the end. -/
def atDocument (r : Reader) : Bool :=
  match r.head with
  | none | some .documentStart | some (.version _) | some (.tagHandle ..) | some .otherDirective => true
  | _ => false

/-- A new node. -/
def add (v : Node) (r : Reader) : Nat × Reader :=
  let a := r.graph.add v
  (a.1, { r with graph := a.2 })

/-- What an absent node is: a plain scalar without text. -/
def addAbsent (r : Reader) : Nat × Reader := r.add ⟨.null, .scalar .empty⟩

/-- The content of a node whose items are read. -/
def setContent (n : Nat) (c : Content) (r : Reader) : Reader := { r with graph := r.graph.setContent n c }

end Reader

/-! ## Properties -/

/-- The anchor and the name of the tag of a node, in either order. -/
structure Properties where
  anchor : Option String
  tag : Option String

def anchor? (r : Reader) : Option String × Reader :=
  match r.head with
  | some (.anchor name) => (some name, r.next)
  | _ => (none, r)

/-- The name of a tag in full: its handle replaced by what it stands for. -/
def tag? (r : Reader) : Option (Option String × Reader) :=
  match r.head with
  | some (.tag none text) => some (some text, r.next)
  | some (.tag (some handle) text) => (r.handles.find? handle).map fun front => (some (front ++ text), r.next)
  | _ => some (none, r)

def properties? (r : Reader) : Option (Properties × Reader) := do
  let (before, r) := anchor? r
  let (tag, r) ← tag? r
  let (after, r) := if before.isNone && tag.isSome then anchor? r else (none, r)
  some (⟨before.or after, tag⟩, r)

/-- The tag of a collection: the one that is given, or that of its kind. -/
def collectionTag (kind : Tag) : Option String → Tag
  | none | some "!" => kind
  | some name => Tag.ofName name

/-- The tag of a scalar: without one, plain scalars are what they look like and others are texts; an exclamation mark
makes any scalar what it looks like. -/
def scalarTag (plain : Bool) (s : Scalar) : Option String → Tag
  | none => if plain then Literal.tagOf s.text else .text
  | some "!" => Literal.tagOf s.text
  | some name => Tag.ofName name

/-- A new node with its anchor, which must be new as well. -/
def add? (p : Properties) (v : Node) (r : Reader) : Option (Nat × Reader) :=
  let a := r.add v
  match p.anchor with
  | none => some a
  | some name =>
    if (r.anchors.find? name).isSome then none else some (a.1, { a.2 with anchors := a.2.anchors.put name a.1 })

def addScalar? (p : Properties) (plain : Bool) (s : Scalar) (r : Reader) : Option (Nat × Reader) :=
  add? p ⟨scalarTag plain s p.tag, .scalar s⟩ r

/-- A node without content, which has some property. -/
def emptyNode? (p : Properties) (r : Reader) : Option (Nat × Reader) :=
  if p.anchor.isSome || p.tag.isSome then addScalar? p true .empty r else none

/-- A new sequence, whose items are read next. -/
def addSequence? (p : Properties) (items : Reader → Option (List Nat × Reader)) (r : Reader) :
    Option (Nat × Reader) := do
  let (v, r) ← add? p ⟨collectionTag .list p.tag, .sequence []⟩ r
  let (vs, r) ← items r
  some (v, r.setContent v (.sequence vs))

/-- A new mapping, whose entries are read next. -/
def addMapping? (p : Properties) (entries : Reader → Option (List Entry × Reader)) (r : Reader) :
    Option (Nat × Reader) := do
  let (v, r) ← add? p ⟨collectionTag .mapping p.tag, .mapping []⟩ r
  let (es, r) ← entries r
  some (v, r.setContent v (.mapping es))

/-! ## Nodes

The first argument bounds the number of nested calls; the number of tokens is enough.  The second one is the number of
nodes that may be nested still. -/

/-- How deep nodes may be nested.  This is no law of documents: at most a thousand calls may be open, a node takes two, and
the number was measured with about eight calls open before the reader's own.  With more callers it is less. -/
def nestingLimit : Nat := 489

/-- Where a node stands, and so which collections it may be. -/
inductive Place where
  | flow
  | block
  /-- the key or value of a block mapping, where a sequence need not be indented -/
  | entry
deriving DecidableEq

mutual

def node? (n depth : Nat) (place : Place) (r : Reader) : Option (Nat × Reader) :=
  match n, depth with
  | 0, _ | _, 0 => none
  | n + 1, depth + 1 =>
    match r.head with
    | some (.alias name) => (r.anchors.find? name).map fun v => (v, r.next)
    | _ => do
      let (p, r) ← properties? r
      content? n depth place p r

/-- A node after its properties. -/
def content? (n depth : Nat) (place : Place) (p : Properties) (r : Reader) : Option (Nat × Reader) :=
  match n with
  | 0 => none
  | n + 1 =>
    match r.head with
    | some .blockEntry =>
      if place = .entry then addSequence? p (looseItems? n depth) r
      else emptyNode? p r
    | some (.scalar plain s) => addScalar? p plain s r.next
    | some .flowSequenceStart => addSequence? p (flowItems? n depth true) r.next
    | some .flowMappingStart => addMapping? p (flowEntries? n depth true) r.next
    | some .blockSequenceStart => if place = .flow then emptyNode? p r else addSequence? p (blockItems? n depth) r.next
    | some .blockMappingStart => if place = .flow then emptyNode? p r else addMapping? p (blockEntries? n depth) r.next
    | _ => emptyNode? p r

/-- A node, or an absent one if one of these tokens comes next. -/
def nodeBefore? (n depth : Nat) (place : Place) (ends : List Token) (r : Reader) : Option (Nat × Reader) :=
  match n with
  | 0 => none
  | n + 1 => if r.seesOneOf ends then some r.addAbsent else node? n depth place r

/-- The items of a block sequence. -/
def blockItems? (n depth : Nat) (r : Reader) : Option (List Nat × Reader) :=
  match n with
  | 0 => none
  | n + 1 =>
    if r.sees .blockEntry then do
      let (v, r) ← nodeBefore? n depth .block [.blockEntry, .blockEnd] r.next
      let (vs, r) ← blockItems? n depth r
      some (v :: vs, r)
    else (r.expect? .blockEnd).map fun r => ([], r)

/-- The items of a sequence that is not indented. -/
def looseItems? (n depth : Nat) (r : Reader) : Option (List Nat × Reader) :=
  match n with
  | 0 => none
  | n + 1 =>
    if r.sees .blockEntry then do
      let (v, r) ← nodeBefore? n depth .block [.blockEntry, .key, .value, .blockEnd] r.next
      let (vs, r) ← looseItems? n depth r
      some (v :: vs, r)
    else some ([], r)

/-- The entries of a block mapping. -/
def blockEntries? (n depth : Nat) (r : Reader) : Option (List Entry × Reader) :=
  match n with
  | 0 => none
  | n + 1 =>
    if r.sees .key then do
      let ends := [.key, .value, .blockEnd]
      let (k, r) ← nodeBefore? n depth .entry ends r.next
      let (v, r) ← if r.sees .value then nodeBefore? n depth .entry ends r.next else some r.addAbsent
      let (es, r) ← blockEntries? n depth r
      some ((k, v) :: es, r)
    else (r.expect? .blockEnd).map fun r => ([], r)

/-- The items of a flow sequence; an item may be a key with its value, which makes a mapping. -/
def flowItems? (n depth : Nat) (first : Bool) (r : Reader) : Option (List Nat × Reader) :=
  match n with
  | 0 => none
  | n + 1 =>
    if r.sees .flowSequenceEnd then some ([], r.next)
    else do
      let r ← if first then some r else r.expect? .flowEntry
      if r.sees .flowSequenceEnd then some ([], r.next)
      else
        let (v, r) ← if r.sees .key then flowPair? n depth r.next else node? n depth .flow r
        let (vs, r) ← flowItems? n depth false r
        some (v :: vs, r)

/-- A key and its value as an item of a flow sequence. -/
def flowPair? (n depth : Nat) (r : Reader) : Option (Nat × Reader) :=
  match n, depth with
  | 0, _ | _, 0 => none
  | n + 1, depth + 1 =>
    addMapping? ⟨none, none⟩ (fun r => do
      let (k, r) ← nodeBefore? n depth .flow [.value, .flowEntry, .flowSequenceEnd] r
      let (v, r) ←
        if r.sees .value then nodeBefore? n depth .flow [.flowEntry, .flowSequenceEnd] r.next else some r.addAbsent
      some ([(k, v)], r)) r

/-- The entries of a flow mapping; an entry without a key's sign is a key alone. -/
def flowEntries? (n depth : Nat) (first : Bool) (r : Reader) : Option (List Entry × Reader) :=
  match n with
  | 0 => none
  | n + 1 =>
    if r.sees .flowMappingEnd then some ([], r.next)
    else do
      let r ← if first then some r else r.expect? .flowEntry
      if r.sees .flowMappingEnd then some ([], r.next)
      else
        let keyed := r.sees .key
        let (k, r) ←
          if keyed then nodeBefore? n depth .flow [.value, .flowEntry, .flowMappingEnd] r.next else node? n depth .flow r
        let (v, r) ←
          if keyed && r.sees .value then nodeBefore? n depth .flow [.flowEntry, .flowMappingEnd] r.next
          else some r.addAbsent
        let (es, r) ← flowEntries? n depth false r
        some ((k, v) :: es, r)

end

/-! ## Documents -/

def defaultHandles : Entries String String := [("!", "!"), ("!!", Tag.front)]

/-- The directives before a document: the handles they declare, each once, and a version of one at most. -/
def directives? : List Token → Bool → Entries String String → Option (Entries String String × List Token)
  | .version major :: ts, versioned, hs => if versioned || major ≠ 1 then none else directives? ts true hs
  | .tagHandle handle text :: ts, versioned, hs =>
    if (hs.find? handle).isSome then none else directives? ts versioned (hs.put handle text)
  | .otherDirective :: ts, versioned, hs => directives? ts versioned hs
  | ts, _, hs => some (hs, ts)

/-- The handles of a document: those that are declared, and the others as they are by default. -/
def withDefaults (hs : Entries String String) : Entries String String :=
  hs ++ defaultHandles.filter fun h => (Entries.find? h.1 hs).isNone

/-- The outermost node of a document. -/
def root? (r : Reader) : Option (Nat × Reader) := node? (3 * r.tokens.length + 8) nestingLimit .block r

/-- A document that starts with a mark. -/
def explicit? (tokens : List Token) : Option (Nat × Reader) := do
  let (handles, ts) ← directives? tokens false []
  let r ← Reader.expect? .documentStart ⟨ts, .empty, [], withDefaults handles⟩
  if r.atDocument || r.sees .documentEnd then some r.addAbsent else root? r

/-- The tokens after the mark that may end a document, and after further ones. -/
def skipEnds : List Token → List Token
  | .documentEnd :: ts => skipEnds ts
  | ts => ts

/-- The document of a text, by its graph and its outermost node, if it has one and no other. -/
def ofTokens? (tokens : List Token) : Option (Option (Nat × Graph)) :=
  if tokens.isEmpty then some none
  else do
    let r : Reader := ⟨tokens, .empty, [], defaultHandles⟩
    let (v, r) ← if r.atDocument then explicit? tokens else root? r
    if (skipEnds r.tokens).isEmpty then some (some (v, r.graph)) else none

end Node
end Yaml
end BatteryIndicator
