import BatteryIndicator.Entries
import BatteryIndicator.Text.Word
/-!
# Environment — named texts from outside, and references to them

The environment gives names their texts.  A reference is a name between `$` with a brace and a closing brace; a text is
filled in by putting the texts of the names in the place of all references, in one pass from the left, so what was put
in is not looked at again.  A name that is not set has the empty text.
-/
namespace BatteryIndicator

abbrev Environment := Entries String String

namespace Environment

def value? (name : String) (env : Environment) : Option String := Entries.find? name env

/-- The text of a name that is set, and to more than nothing. -/
def nonempty? (name : String) (env : Environment) : Option String := (env.value? name).filter (· != "")

/-- A name of at least one word character and a closing brace, and the text after them. -/
def name? (s : List Char) : Option (List Char × List Char) :=
  match s.takeWhile Text.isWord, s.dropWhile Text.isWord with
  | c :: name, '\x7d' :: rest => some (c :: name, rest)
  | _, _ => none

/-- A reference at the front: its name, and the text after it. -/
def reference? : List Char → Option (List Char × List Char)
  | '$' :: '\x7b' :: s => name? s
  | _ => none

theorem length_name? {s name rest : List Char} (h : name? s = some (name, rest)) : rest.length < s.length := by
  have hs : s.takeWhile Text.isWord ++ s.dropWhile Text.isWord = s := List.takeWhile_append_dropWhile
  unfold name? at h
  split at h
  · next c word after hw hd =>
    simp only [Option.some.injEq, Prod.mk.injEq] at h
    have := congrArg List.length hs
    simp only [hw, hd, List.length_append, List.length_cons] at this
    rw [← h.2]
    omega
  · simp at h

theorem length_reference? {s name rest : List Char} (h : reference? s = some (name, rest)) :
    rest.length < s.length := by
  unfold reference? at h
  split at h
  · have := length_name? h
    simp only [List.length_cons]
    omega
  · simp at h

/-- A text with its references filled in. -/
def fill (env : Environment) (s : List Char) : List Char :=
  match s with
  | [] => []
  | c :: t =>
    match _h : reference? (c :: t) with
    | some (name, rest) => ((env.value? (String.ofList name)).getD "").toList ++ fill env rest
    | none => c :: fill env t
termination_by s.length
decreasing_by
  · exact length_reference? _h
  · simp

end Environment
end BatteryIndicator
