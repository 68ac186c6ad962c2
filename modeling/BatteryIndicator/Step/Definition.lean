import BatteryIndicator.Number.Numeral
import BatteryIndicator.Step
import BatteryIndicator.Text.Fields
/-!
# Definition — a step set on one line

A step set is written as entries `max:icon` or `max:icon:alternate` with commas between them.  A definition for `count`
steps is cut at its first `count - 1` commas, so the last entry may have commas in its icons.  Each entry covers the
levels from the maximum of the last good entry before it, or zero, up to its own maximum.  An entry that cannot be read
is dropped and takes no part in that chain.
-/
namespace BatteryIndicator

/-- Why an entry of a step definition cannot be read. -/
inductive EntryFault where
  | missingColon
  | invalidMaximum (text : String)
  | missingIcon
deriving DecidableEq, Inhabited

namespace EntryFault

def reason : EntryFault → String
  | .missingColon => "missing colon"
  | .invalidMaximum text => "invalid maximum " ++ Text.quoted text
  | .missingIcon => "missing icon"

end EntryFault

/-- An entry of a step definition that was dropped. -/
structure DroppedEntry where
  entry : String
  fault : EntryFault
deriving DecidableEq, Inhabited

namespace DroppedEntry

def message (d : DroppedEntry) : String :=
  "unparseable entry " ++ Text.quoted d.entry ++ ": " ++ d.fault.reason

end DroppedEntry

namespace Step

/-- The fields of an entry: the maximum, the icon, and the alternate icon, which may be missing. -/
def ofFields (minimum : Binary64) : List (List Char) → Except EntryFault Step
  | maximum :: icon :: alternate =>
    match Numeral.written.real? (Text.trim maximum) with
    | none => .error (.invalidMaximum (String.ofList (Text.trim maximum)))
    | some m =>
      let icon := Text.trim icon
      let alternate := Text.trim alternate.flatten
      if icon.isEmpty then .error .missingIcon
      else .ok ⟨minimum, m, String.ofList icon, if alternate.isEmpty then none else some (String.ofList alternate), none⟩
  | _ => .error .missingColon

/-- The step that an entry writes, for levels above `minimum`. -/
def ofEntry (minimum : Binary64) (entry : List Char) : Except EntryFault Step :=
  ofFields minimum (Text.fields ':' 2 entry)

/-- What was read of a step definition: its steps, and the entries that were dropped. -/
structure Definition where
  steps : List Step
  dropped : List DroppedEntry
deriving Inhabited

namespace Definition

/-- The entries read one after the other, the first one for levels above `minimum`. -/
def ofEntries : Binary64 → List (List Char) → Definition
  | _, [] => ⟨[], []⟩
  | minimum, e :: es =>
    match ofEntry minimum e with
    | .ok s =>
      let rest := ofEntries s.maximum es
      ⟨s :: rest.steps, rest.dropped⟩
    | .error fault =>
      let rest := ofEntries minimum es
      ⟨rest.steps, ⟨String.ofList e, fault⟩ :: rest.dropped⟩

/-- The entries of a definition that is cut at most `cuts` times. -/
def entries (cuts : Nat) (definition : String) : List (List Char) :=
  (Text.fields ',' cuts definition.toList).map Text.trim

/-- The number of cuts that a text can have at most. -/
def cutLimit : Nat := Nat.pow 2 63 - 1

/-- The steps of a definition for `count` steps. -/
def read (definition : String) (count : Int) : Except Failure Definition :=
  let cuts := (count - 1).toNat
  if cutLimit < cuts then .error .tooManyFields else .ok (ofEntries 0 (entries cuts definition))

end Definition
end Step
end BatteryIndicator
