import BatteryIndicator.Text.RawText
import BatteryIndicator.Yaml.Cursor
/-!
# Scalar — the four ways to write a text

A plain scalar stands without quotes and ends where something else could begin; a quoted one stands between single or
double quotes, with escapes in the latter; a block scalar takes the indented lines after its header.  Each reader gives
the text and the place after it, or nothing when the scalar is malformed.  A line end inside a plain or quoted scalar is
a space, and one more line end a line feed.
-/
namespace BatteryIndicator
namespace Yaml

/-- What a scalar holds.  An escape may write half of a surrogate pair, so this need not be a whole text. -/
structure Scalar where
  content : RawText
deriving DecidableEq, Inhabited

def Scalar.empty : Scalar := ⟨[]⟩

/-- The text by which a tag is found and read.  No tag but that of texts knows halves, or what stands for them here. -/
def Scalar.text (s : Scalar) : String := String.ofList (s.content.map CodePoint.replaced)

/-- The text that a line end and the line ends after it stand for. -/
def folded (first : Char) (more : List Char) : List Char :=
  if first ≠ '\n' then first :: more else if more.isEmpty then [' '] else more

/-! ## Plain -/

/-- Whether a plain scalar ends before this character. -/
def endsPlain (inFlow : Bool) (c : Char) (next : Option Char) : Bool :=
  endsWord (some c) ||
  (c == ':' && (endsWord next || (inFlow && next.any fun d => ",[]\x7b\x7d".toList.contains d))) ||
  (inFlow && ",?[]\x7b\x7d".toList.contains c)

/-- The number of characters of a plain scalar up to a blank. -/
def plainLength (inFlow : Bool) : List Char → Nat
  | [] => 0
  | c :: s => if endsPlain inFlow c s.head? then 0 else plainLength inFlow s + 1

/-- The line ends and spaces here, and the place after them; a mark between documents stops the count and empties it. -/
def plainBreaks : Nat → Cursor → Option (List Char) × Cursor
  | 0, c => (some [], c)
  | n + 1, c =>
    if c.sees ' ' then plainBreaks n c.next
    else
      match c.lineBreak? with
      | none => (some [], c)
      | some (b, c) =>
        if c.separates then (none, c)
        else
          let r := plainBreaks n c
          (r.1.map (b :: ·), r.2)

/-- The blanks after a piece of a plain scalar: the text they stand for, the place after them, and whether a line ended
among them.  No text means that the scalar is over. -/
def plainSpaces (c : Cursor) : List Char × Cursor × Bool :=
  let r := c.takeWhile (· == ' ')
  match r.2.lineBreak? with
  | none => (r.1, r.2, false)
  | some (b, c) =>
    if c.separates then ([], c, true)
    else
      match plainBreaks c.rest.length c with
      | (none, c) => ([], c, true)
      | (some more, c) => (folded b more, c, true)

/-- A plain scalar: its text, the place after it, and whether its last blanks held a line end. -/
def plainFrom (inFlow : Bool) (indent : Int) : Nat → List Char → Bool → Cursor → List Char × Cursor × Bool
  | 0, _, ended, c => ([], c, ended)
  | fuel + 1, spaces, ended, c =>
    let n := plainLength inFlow c.rest
    if c.sees '#' || n = 0 then ([], c, ended)
    else
      let piece := spaces ++ c.rest.take n
      let (spaces, c, ended) := plainSpaces (c.advance n)
      if spaces.isEmpty || c.sees '#' || (!inFlow && decide ((c.column : Int) < indent)) then (piece, c, ended)
      else
        let r := plainFrom inFlow indent fuel spaces ended c
        (piece ++ r.1, r.2)

def plain (inFlow : Bool) (indent : Int) (c : Cursor) : List Char × Cursor × Bool :=
  plainFrom inFlow indent c.rest.length [] false c

/-! ## Quoted -/

def isHex (c : Char) : Bool := c.isDigit || ('a' ≤ c && c ≤ 'f') || ('A' ≤ c && c ≤ 'F')

def hexValue (c : Char) : Nat :=
  if c.isDigit then c.toNat - 48 else if 'a' ≤ c then c.toNat - 87 else c.toNat - 55

/-- The characters that a backslash and one character stand for. -/
def escapes : List (Char × Char) :=
  [('0', '\x00'), ('a', '\x07'), ('b', '\x08'), ('t', '\t'), ('\t', '\t'), ('n', '\n'), ('v', '\x0b'), ('f', '\x0c'),
   ('r', '\r'), ('e', '\x1b'), (' ', ' '), ('\x22', '\x22'), ('\\', '\\'), ('/', '/'), ('N', '\x85'), ('_', '\xa0'),
   ('L', '\u2028'), ('P', '\u2029')]

/-- The number of hexadecimal digits after a backslash and one character. -/
def escapeWidths : List (Char × Nat) := [('x', 2), ('u', 4), ('U', 8)]

/-- The line ends after the first one in a quoted scalar.  No mark between documents may stand at the start of one of
these lines. -/
def quotedBreaks : Nat → Cursor → Option (List Char × Cursor)
  | 0, _ => none
  | n + 1, c =>
    if c.separates then none
    else
      let c := (c.takeWhile fun ch => ch == ' ' || ch == '\t').2
      match c.lineBreak? with
      | none => some ([], c)
      | some (b, c) => (quotedBreaks n c).map fun r => (b :: r.1, r.2)

/-- An escape, after the backslash: what it stands for, and the place after it. -/
def escaped? (c : Cursor) : Option (RawText × Cursor) := do
  let ch ← c.head
  match escapes.lookup ch, escapeWidths.lookup ch with
  | some d, _ => some ([.char d], c.next)
  | none, some width =>
    let digits := c.next.rest.take width
    if digits.length = width && digits.all isHex then
      let d ← CodePoint.ofCode? (digits.foldl (fun n d => 16 * n + hexValue d) 0)
      some ([d], c.next.advance width)
    else none
  | none, none => do
    let (_, c) ← c.lineBreak?
    let (breaks, c) ← quotedBreaks (c.rest.length + 1) c
    some (breaks.map .char, c)

/-- A quoted scalar after its opening quote: what it holds, and the place after it. -/
def quotedFrom (double : Bool) : Nat → Cursor → Option (RawText × Cursor)
  | 0, _ => none
  | n + 1, c => do
    let quote := if double then '\x22' else '\x27'
    let raw := fun (piece : RawText) (c : Cursor) => (quotedFrom double n c).map fun r => (piece ++ r.1, r.2)
    let more := fun (piece : List Char) => raw (piece.map .char)
    let ch ← c.head
    if ch = quote then
      if !double && c.peek 1 == some quote then more [quote] (c.advance 2) else some ([], c.next)
    else if double && ch = '\\' then
      let (piece, c) ← escaped? c.next
      raw piece c
    else if ch = ' ' || ch = '\t' || isBreak ch then
      let r := c.takeWhile fun d => d == ' ' || d == '\t'
      match r.2.lineBreak? with
      | none => more r.1 r.2
      | some (b, c) =>
        let (breaks, c) ← quotedBreaks (c.rest.length + 1) c
        more (folded b breaks) c
    else more [ch] c.next

/-- A quoted scalar, at its opening quote. -/
def quoted (double : Bool) (c : Cursor) : Option (Scalar × Cursor) :=
  (quotedFrom double (c.rest.length + 1) c.next).map fun r => (⟨r.1⟩, r.2)

/-! ## Block -/

/-- What the header of a block scalar says: whether line ends at its end are kept (`some true`), dropped (`some false`)
or reduced to one, and how far its lines are indented. -/
structure BlockHeader where
  keep : Option Bool
  indent : Option Nat

def blockSign (c : Cursor) : Option Bool × Cursor :=
  if c.sees '+' then (some true, c.next) else if c.sees '-' then (some false, c.next) else (none, c)

/-- An indentation of one digit; zero is malformed. -/
def blockIndent (c : Cursor) : Option (Option Nat × Cursor) :=
  match c.head with
  | some ch =>
    if ch = '0' then none
    else if ch.isDigit then some (some (ch.toNat - 48), c.next)
    else some (none, c)
  | none => some (none, c)

/-- The header of a block scalar, to the end of its line. -/
def blockHeader (c : Cursor) : Option (BlockHeader × Cursor) := do
  let (keep, c) := blockSign c
  let (indent, c) ← blockIndent c
  let (keep, c) := if keep.isNone && indent.isSome then blockSign c else (keep, c)
  if !(endsLine c.head || c.sees ' ') then none
  let c := (c.takeWhile (· == ' ')).2
  let c := if c.sees '#' then c.skipLine else c
  if !endsLine c.head then none
  some (⟨keep, indent⟩, (c.lineBreak?.map Prod.snd).getD c)

/-- The empty lines at the start of a block scalar, and the greatest column reached in them. -/
def blockStart : Nat → Nat → Cursor → List Char × Nat × Cursor
  | 0, widest, c => ([], widest, c)
  | n + 1, widest, c =>
    if c.sees ' ' then blockStart n (max widest c.next.column) c.next
    else
      match c.lineBreak? with
      | none => ([], widest, c)
      | some (b, c) =>
        let r := blockStart n widest c
        (b :: r.1, r.2)

/-- The spaces up to a column. -/
def skipIndent : Nat → Nat → Cursor → Cursor
  | 0, _, c => c
  | n + 1, indent, c => if c.column < indent && c.sees ' ' then skipIndent n indent c.next else c

/-- The empty lines between two lines of a block scalar. -/
def blockBreaks : Nat → Nat → Cursor → List Char × Cursor
  | 0, _, c => ([], c)
  | n + 1, indent, c =>
    let c := skipIndent c.rest.length indent c
    match c.lineBreak? with
    | none => ([], c)
    | some (b, c) =>
      let r := blockBreaks n indent c
      (b :: r.1, r.2)

/-- The lines of a block scalar: its text without the line ends at its end, those line ends, and the place after it. -/
def blockLines (fold : Bool) (indent : Nat) : Nat → List Char → Cursor → List Char × List Char × List Char × Cursor
  | 0, breaks, c => ([], [], breaks, c)
  | n + 1, breaks, c =>
    let here := fun (c : Cursor) => c.column == indent && c.head.isSome
    let blank := fun (c : Cursor) => c.sees ' ' || c.sees '\t'
    if here c then
      let line := c.takeWhile fun ch => !isBreak ch
      let lineEnd := line.2.lineBreak?
      let c' := (lineEnd.map Prod.snd).getD line.2
      let ending := lineEnd.toList.map Prod.fst
      let after := blockBreaks (c'.rest.length + 1) indent c'
      if here after.2 then
        let joint :=
          if fold && ending == ['\n'] && !blank c && !blank after.2 then (if after.1.isEmpty then [' '] else [])
          else ending
        let r := blockLines fold indent n after.1 after.2
        (breaks ++ line.1 ++ joint ++ r.1, r.2)
      else (breaks ++ line.1, ending, after.1, after.2)
    else ([], [], breaks, c)

/-- A block scalar after its indicator, within a block of this indentation. -/
def block (fold : Bool) (outer : Int) (c : Cursor) : Option (List Char × Cursor) := do
  let (header, c) ← blockHeader c
  let least := (max (outer + 1) 1).toNat
  let (indent, breaks, c) :=
    match header.indent with
    | some n =>
      let indent := least + n - 1
      let r := blockBreaks (c.rest.length + 1) indent c
      (indent, r.1, r.2)
    | none =>
      let r := blockStart c.rest.length 0 c
      (max least r.2.1, r.1, r.2.2)
  let (text, ending, breaks, c) := blockLines fold indent (c.rest.length + 1) breaks c
  let tail :=
    match header.keep with
    | some false => []
    | none => ending
    | some true => ending ++ breaks
  some (text ++ tail, c)

end Yaml
end BatteryIndicator
