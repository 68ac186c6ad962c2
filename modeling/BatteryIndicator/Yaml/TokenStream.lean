import BatteryIndicator.Yaml.Token
/-!
# TokenStream — the tokens of a text in order

Block collections show by columns alone.  A collection opens at the first entry or key of its column and closes at the
first token that stands further left.  That a scalar is a key shows only at the colon after it, so what may turn out to
be a key is remembered, for each level of nested flow collections, until its line ends or 1024 characters have passed;
the key's token is then put in front of it.
-/
namespace BatteryIndicator
namespace Yaml

/-- Something that is a key if a colon follows it. -/
structure Candidate where
  /-- the number of tokens before it -/
  number : Nat
  /-- it stands where nothing but a key may stand -/
  required : Bool
  line : Nat
  index : Nat
  column : Nat

/-- How far the tokens are read. -/
structure TokenStream where
  cursor : Cursor
  /-- the tokens so far, the last one first -/
  tokens : List Token
  /-- the columns of the open block collections, the innermost first -/
  columns : List Nat
  /-- what may be a key at this level -/
  candidate : Option Candidate
  /-- what may be a key at the levels around it; there are such levels in flow collections only -/
  outer : List (Option Candidate)
  keyAllowed : Bool

namespace TokenStream

def start (text : List Char) : TokenStream := ⟨.start text, [], [], none, [], true⟩

def inFlow (s : TokenStream) : Bool := !s.outer.isEmpty

def push (t : Token) (s : TokenStream) : TokenStream := { s with tokens := t :: s.tokens }

/-- The column of the innermost block collection. -/
def indent (s : TokenStream) : Int :=
  match s.columns with
  | [] => -1
  | n :: _ => n

/-! ## Candidates -/

/-- The most characters between the start of a key and its colon. -/
def keyLimit : Nat := 1024

/-- A candidate at a later place: forgotten once it is too far back, and a fault if it was required. -/
def keep? (here : Cursor) : Option Candidate → Option (Option Candidate)
  | none => some none
  | some k =>
    if k.line = here.line && here.index - k.index ≤ keyLimit then some (some k)
    else if k.required then none
    else some none

def expire? (s : TokenStream) : Option TokenStream := do
  let candidate ← keep? s.cursor s.candidate
  let outer ← s.outer.mapM (keep? s.cursor)
  some { s with candidate := candidate, outer := outer }

/-- Forgets the candidate of this level; that is a fault if it was required. -/
def forget? (s : TokenStream) : Option TokenStream :=
  match s.candidate with
  | some k => if k.required then none else some { s with candidate := none }
  | none => some s

/-- Remembers that what comes next may be a key, where keys are allowed. -/
def remember? (s : TokenStream) : Option TokenStream :=
  if s.keyAllowed then
    (forget? s).map fun s =>
      let c := s.cursor
      { s with candidate := some ⟨s.tokens.length, !s.inFlow && s.indent == c.column, c.line, c.index, c.column⟩ }
  else some s

/-! ## Block collections -/

def closeColumns (column : Int) : List Nat → List Token → List Nat × List Token
  | [], ts => ([], ts)
  | n :: ns, ts => if column < n then closeColumns column ns (.blockEnd :: ts) else (n :: ns, ts)

/-- Closes the block collections that stand right of a column. -/
def close (column : Int) (s : TokenStream) : TokenStream :=
  if s.inFlow then s
  else
    let r := closeColumns column s.columns s.tokens
    { s with columns := r.1, tokens := r.2 }

/-- Opens a block collection at a column, unless one is open there. -/
def openBlock (t : Token) (s : TokenStream) : TokenStream :=
  if s.indent < s.cursor.column then { s.push t with columns := s.cursor.column :: s.columns } else s

/-! ## One token -/

/-- Past spaces, comments and line ends, and whether there was a line end. -/
def skip : Nat → Bool → Cursor → Cursor × Bool
  | 0, ended, c => (c, ended)
  | n + 1, ended, c =>
    let c := skipSpaces c
    let c := if c.sees '#' then c.skipLine else c
    match c.lineBreak? with
    | none => (c, ended)
    | some (_, c) => skip n true c

/-- To the next token; the collections that it stands left of are closed. -/
def approach? (s : TokenStream) : Option TokenStream := do
  let c := if s.cursor.index = 0 && s.cursor.sees byteOrderMark then s.cursor.next else s.cursor
  let (c, ended) := skip (c.rest.length + 1) false c
  let s ← expire? { s with cursor := c, keyAllowed := s.keyAllowed || (ended && !s.inFlow) }
  some (s.close c.column)

/-- A token of its own: no key ends with it, and a key may begin after it as told. -/
def single? (t : Token) (length : Nat) (keyAllowed : Bool) (s : TokenStream) : Option TokenStream :=
  (forget? s).map fun s => { s.push t with cursor := s.cursor.advance length, keyAllowed := keyAllowed }

/-- A mark between documents. -/
def mark? (t : Token) (s : TokenStream) : Option TokenStream := single? t 3 false (s.close (-1))

def readDirective? (s : TokenStream) : Option TokenStream := do
  let s ← forget? (s.close (-1))
  let (t, c) ← directive? s.cursor.next
  some { s.push t with cursor := c, keyAllowed := false }

def openFlow? (t : Token) (s : TokenStream) : Option TokenStream :=
  (remember? s).map fun s =>
    { s.push t with cursor := s.cursor.next, candidate := none, outer := s.candidate :: s.outer, keyAllowed := true }

/-- The end of a flow collection; outside of one it is a fault. -/
def closeFlow? (t : Token) (s : TokenStream) : Option TokenStream := do
  let s ← forget? s
  match s.outer with
  | [] => none
  | k :: ks => some { s.push t with cursor := s.cursor.next, candidate := k, outer := ks, keyAllowed := false }

/-- The sign of an entry or of a key that is marked as such, which opens a block collection outside of flow
collections. -/
def sign? (opener t : Token) (s : TokenStream) : Option TokenStream :=
  if s.inFlow then single? t 1 (t == .blockEntry) s
  else if s.keyAllowed then single? t 1 true (s.openBlock opener)
  else none

/-- The colon before a value.  The candidate, if there is one, is the key. -/
def readValue? (s : TokenStream) : Option TokenStream :=
  match s.candidate with
  | some k =>
    let after := s.tokens.length - k.number
    let opens := !s.inFlow && decide (s.indent < k.column)
    let signs := if opens then [.key, .blockMappingStart] else [.key]
    some
      { s with
        tokens := .value :: s.tokens.take after ++ signs ++ s.tokens.drop after
        columns := if opens then k.column :: s.columns else s.columns
        candidate := none, cursor := s.cursor.next, keyAllowed := false }
  | none => sign? .blockMappingStart .value s

/-- A word that may be a key. -/
def word? (read : Cursor → Option (Token × Cursor)) (s : TokenStream) : Option TokenStream := do
  let s ← remember? s
  let (t, c) ← read s.cursor
  some { s.push t with cursor := c, keyAllowed := false }

def plainWord? (s : TokenStream) : Option TokenStream :=
  (remember? s).map fun s =>
    let (text, c, ended) := plain s.inFlow (s.indent + 1) s.cursor
    { s.push (.scalar true ⟨text.map .char⟩) with cursor := c, keyAllowed := ended }

def blockWord? (fold : Bool) (s : TokenStream) : Option TokenStream := do
  let s ← forget? s
  let (text, c) ← block fold s.indent s.cursor.next
  some { s.push (.scalar false ⟨text.map .char⟩) with cursor := c, keyAllowed := true }

def quotedToken? (double : Bool) (c : Cursor) : Option (Token × Cursor) :=
  (quoted double c).map fun r => (.scalar false r.1, r.2)

/-- The signs that a plain scalar cannot start with. -/
def signs : String := "-?:,[]\x7b\x7d#&*!|>'\x22%@`"

def startsPlain (ch : Char) (s : TokenStream) : Bool :=
  !(endsWord (some ch) || signs.toList.contains ch) ||
    (!endsWord (s.cursor.peek 1) && (ch == '-' || (!s.inFlow && (ch == '?' || ch == ':'))))

/-- The next token, which starts with the character. -/
def read? (ch : Char) (s : TokenStream) : Option TokenStream :=
  let c := s.cursor
  let alone := s.inFlow || endsWord (c.peek 1)
  if c.column = 0 && ch = '%' then s.readDirective?
  else if c.column = 0 && c.marks '-' then s.mark? .documentStart
  else if c.column = 0 && c.marks '.' then s.mark? .documentEnd
  else if ch = '[' then s.openFlow? .flowSequenceStart
  else if ch = '\x7b' then s.openFlow? .flowMappingStart
  else if ch = ']' then s.closeFlow? .flowSequenceEnd
  else if ch = '\x7d' then s.closeFlow? .flowMappingEnd
  else if ch = ',' then s.single? .flowEntry 1 true
  else if ch = '-' && endsWord (c.peek 1) then s.sign? .blockSequenceStart .blockEntry
  else if ch = '?' && alone then s.sign? .blockMappingStart .key
  else if ch = ':' && alone then s.readValue?
  else if ch = '*' then s.word? fun c => (anchorName? c.next).map fun r => (.alias r.1, r.2)
  else if ch = '&' then s.word? fun c => (anchorName? c.next).map fun r => (.anchor r.1, r.2)
  else if ch = '!' then s.word? tag?
  else if ch = '|' && !s.inFlow then s.blockWord? false
  else if ch = '>' && !s.inFlow then s.blockWord? true
  else if ch = '\x27' then s.word? (quotedToken? false)
  else if ch = '\x22' then s.word? (quotedToken? true)
  else if s.startsPlain ch then s.plainWord?
  else none

/-- The tokens to the end of the text, with those already read. -/
def readAll? : Nat → TokenStream → Option (List Token)
  | 0, _ => none
  | n + 1, s => do
    let s ← s.approach?
    match s.cursor.head with
    | none => (forget? (s.close (-1))).map fun s => s.tokens.reverse
    | some ch => s.read? ch >>= readAll? n

end TokenStream

/-- The tokens of a text, if it has no fault that shows in them. -/
def tokens? (text : List Char) : Option (List Token) := TokenStream.readAll? (text.length + 1) (.start text)

end Yaml
end BatteryIndicator
