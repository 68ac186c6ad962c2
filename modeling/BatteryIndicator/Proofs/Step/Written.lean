import BatteryIndicator.Proofs.Number.Numeral
import BatteryIndicator.Proofs.Step.Chain
import BatteryIndicator.Proofs.Text.Cut
/-!
# Written — step definitions as they are written

An entry is written as a maximum, an icon and perhaps an alternate icon, with blanks around each of them.  Blanks around
the whole entry do not count either (`ofEntry_trim`), so an entry is read as the step that it was written for
(`Entry.ofEntry_chars`), and a definition as the steps of its entries (`read_definition`).  Colons may stand in alternate
icons, and commas in the icons of the last entry.
-/
namespace BatteryIndicator
namespace Step

open Text

/-! ## Blanks -/

variable {start value : Binary64} {m m' i i' : List Char} {as as' : List (List Char)}

theorem isBlank_colon : isBlank ':' = false := by decide

theorem isBlank_comma : isBlank ',' = false := by decide

/-- Fields count without the blanks around them. -/
theorem ofFields_congr (hm : trim m = trim m') (hi : trim i = trim i') (has : trim as.flatten = trim as'.flatten) :
    ofFields start (m :: i :: as) = ofFields start (m' :: i' :: as') := by
  simp only [ofFields, hm, hi, has]

theorem ofFields_of_real? (hm : Numeral.written.real? (trim m) = some value) (hi : trim i ≠ []) :
    ofFields start (m :: i :: as) = .ok ⟨start, value, String.ofList (trim i),
      if (trim as.flatten).isEmpty then none else some (String.ofList (trim as.flatten)), none⟩ := by
  have hicon : (trim i).isEmpty = false := by simpa using hi
  simp [ofFields, hm, hicon]

/-- **Blanks around an entry do not count**: those before it belong to the maximum, those after it to its last field. -/
theorem ofEntry_trim (start : Binary64) (s : List Char) : ofEntry start (trim s) = ofEntry start s := by
  unfold ofEntry
  by_cases hs : ':' ∈ s
  · obtain ⟨x, y, rfl, hx⟩ := List.eq_append_cons_of_mem hs
    have hx' : ':' ∉ trimStart x := fun h => hx ((List.dropWhile_sublist isBlank).subset h)
    rw [trim_append_cons x isBlank_colon, fields_append 1 _ hx', fields_append 1 _ hx]
    by_cases hy : ':' ∈ y
    · obtain ⟨z, w, rfl, hz⟩ := List.eq_append_cons_of_mem hy
      rw [trimEnd_append_cons z isBlank_colon, fields_append 0 _ hz, fields_append 0 _ hz, fields_zero, fields_zero]
      exact ofFields_congr (trim_trimStart x) rfl (by simp)
    · have hy' : ':' ∉ trimEnd y := fun h => hy ((List.rdropWhile_prefix isBlank y).subset h)
      rw [fields_of_not_mem 1 hy', fields_of_not_mem 1 hy]
      exact ofFields_congr (trim_trimStart x) (trim_trimEnd y) rfl
  · have hs' : ':' ∉ trim s := fun h => hs (trim_subset s h)
    rw [fields_of_not_mem 2 hs', fields_of_not_mem 2 hs]
    rfl

/-! ## Entries -/

/-- A text with blanks around it. -/
structure Padded where
  before : List Char
  text : List Char
  after : List Char
  before_blank : before.all isBlank = true
  after_blank : after.all isBlank = true

namespace Padded

def chars (p : Padded) : List Char := p.before ++ p.text ++ p.after

theorem trim_chars (p : Padded) : trim p.chars = trim p.text := trim_padded p.before_blank p.text p.after_blank

end Padded

/-- A name with blanks around it: not empty, and without blanks at its own ends. -/
structure PaddedName extends Padded where
  text_ne_nil : text ≠ []
  trim_text : trim text = text

namespace PaddedName

def name (p : PaddedName) : String := String.ofList p.text

theorem trim_chars (p : PaddedName) : trim p.chars = p.text := p.toPadded.trim_chars.trans p.trim_text

theorem mem_text {p : PaddedName} {c : Char} (hc : isBlank c = false) (h : c ∈ p.chars) : c ∈ p.text := by
  rw [← p.trim_chars]
  exact mem_trim_of_mem hc h

end PaddedName

/-- An entry to be written: a text that is read as a number, an icon without colons, and perhaps an alternate icon. -/
structure Entry where
  maximum : Padded
  value : Binary64
  icon : PaddedName
  alternate : Option PaddedName
  reads : Numeral.written.real? (trimMargins maximum.text) = some value
  icon_colon : ':' ∉ icon.text

namespace Entry

def chars (e : Entry) : List Char :=
  e.maximum.chars ++ ':' :: (e.icon.chars ++ e.alternate.elim [] fun a => ':' :: a.chars)

/-- Neither icon has a comma. -/
def Commaless (e : Entry) : Prop := ',' ∉ e.icon.text ∧ ∀ a ∈ e.alternate, ',' ∉ a.text

instance (e : Entry) : Decidable e.Commaless := inferInstanceAs (Decidable (_ ∧ _))

/-- The step that an entry is written for, for levels above `start`. -/
def step (start : Binary64) (e : Entry) : Step :=
  ⟨start, e.value, e.icon.name, e.alternate.map PaddedName.name, none⟩

/-- The steps of entries, each of which starts where the one before it ends. -/
def steps : Binary64 → List Entry → List Step
  | _, [] => []
  | start, e :: es => e.step start :: steps e.value es

/-- Entries with commas between them. -/
def definition (es : List Entry) : String := String.ofList ([','].intercalate (es.map chars))

variable (e : Entry)

theorem length_steps : ∀ (es : List Entry) (start : Binary64), (steps start es).length = es.length
  | [], _ => rfl
  | e :: es, _ => congrArg Nat.succ (length_steps es e.value)

theorem trim_maximum : trim e.maximum.chars = trimMargins e.maximum.text := by
  rw [e.maximum.trim_chars]
  refine trim_of_trimMargins fun c hc => ?_
  have hadmits := Numeral.admits_of_real? e.reads hc
  rw [Bool.eq_false_iff]
  intro hblank
  rw [Numeral.written_admits_of_isBlank hblank] at hadmits
  cases hadmits

/-- A maximum has no characters but blanks and those of numbers. -/
theorem not_mem_maximum {c : Char} (hblank : isBlank c = false) (hc : Numeral.written.admits c = false) :
    c ∉ e.maximum.chars := by
  intro hmem
  have htrim := mem_trim_of_mem hblank hmem
  rw [e.trim_maximum] at htrim
  rw [Numeral.admits_of_real? e.reads htrim] at hc
  cases hc

/-- **An entry is read as the step that it was written for.** -/
theorem ofEntry_chars (start : Binary64) : ofEntry start e.chars = .ok (e.step start) := by
  have hmaximum : ':' ∉ e.maximum.chars := e.not_mem_maximum isBlank_colon Numeral.written_admits_colon
  have hicon : ':' ∉ e.icon.chars := fun h => e.icon_colon (PaddedName.mem_text isBlank_colon h)
  have hvalue : Numeral.written.real? (trim e.maximum.chars) = some e.value := by rw [e.trim_maximum, e.reads]
  have hname : trim e.icon.chars ≠ [] := by rw [e.icon.trim_chars]; exact e.icon.text_ne_nil
  rw [ofEntry, chars, fields_append 1 _ hmaximum]
  cases halternate : e.alternate with
  | none =>
    rw [Option.elim_none, List.append_nil, fields_of_not_mem 1 hicon, ofFields_of_real? hvalue hname, step, halternate,
      e.icon.trim_chars]
    rfl
  | some a =>
    have hflat : trim [a.chars].flatten = a.text := by rw [List.flatten_singleton, a.trim_chars]
    have hempty : a.text.isEmpty = false := by simpa using a.text_ne_nil
    rw [Option.elim_some, fields_append 0 _ hicon, fields_zero, ofFields_of_real? hvalue hname, step, halternate,
      e.icon.trim_chars, hflat, hempty]
    rfl

/-! ## Definitions -/

theorem ofEntries_chars : ∀ (es : List Entry) (start : Binary64),
    Definition.ofEntries start (es.map fun e => trim e.chars) = ⟨steps start es, []⟩
  | [], _ => rfl
  | e :: es, start => by
    rw [List.map_cons, Definition.ofEntries, ofEntry_trim, e.ofEntry_chars]
    dsimp only
    rw [show (e.step start).maximum = e.value from rfl, ofEntries_chars es e.value]
    rfl

theorem comma_not_mem_chars {e : Entry} (h : e.Commaless) : ',' ∉ e.chars := by
  have hmaximum : ',' ∉ e.maximum.chars := e.not_mem_maximum isBlank_comma Numeral.written_admits_comma
  have hicon : ',' ∉ e.icon.chars := fun hc => h.1 (PaddedName.mem_text isBlank_comma hc)
  have halternate : ',' ∉ e.alternate.elim [] fun a => ':' :: a.chars := by
    cases ha : e.alternate with
    | none => simp
    | some a =>
      have hchars : ',' ∉ a.chars := fun hc => h.2 a ha (PaddedName.mem_text isBlank_comma hc)
      simpa using hchars
  simp [chars, hmaximum, hicon, halternate]

/-- **A definition is read as the steps that it was written for.**  Any number of entries that a text can be cut into is
read back: each with the number that its maximum writes, where the one before it ends, and with exactly its icons; none
is dropped.  Only the last entry may have commas in its icons. -/
theorem read_definition (es : List Entry) (hne : es ≠ []) (hcount : es.length ≤ 2 ^ 63)
    (hcommas : ∀ e ∈ es.dropLast, e.Commaless) :
    Definition.read (definition es) es.length = .ok ⟨steps 0 es, []⟩ ∧ (steps 0 es).length = es.length := by
  refine ⟨Definition.read_eq_ok_iff.2 ⟨by exact_mod_cast hcount, ?_⟩, length_steps es 0⟩
  have hsplit : es.map chars = es.dropLast.map chars ++ [(es.getLast hne).chars] := by
    rw [← List.map_singleton, ← List.map_append, List.dropLast_append_getLast]
  have hcuts : ((es.length : Int) - 1).toNat = (es.dropLast.map chars).length := by
    rw [List.length_map, List.length_dropLast]
    omega
  have hearly : ∀ f ∈ es.dropLast.map chars, ',' ∉ f := by
    intro f hf
    obtain ⟨e, he, rfl⟩ := List.mem_map.1 hf
    exact comma_not_mem_chars (hcommas e he)
  rw [Definition.entries, definition, String.toList_ofList, hsplit, hcuts, fields_intercalate _ _ hearly, ← hsplit,
    List.map_map]
  exact (ofEntries_chars es 0).symm

/-- Entries with a colon in an alternate icon, and with commas in the last entry. -/
def intricate : List Entry :=
  [⟨⟨[' '], ['1', '_', '0'], ['\t'], by decide, by decide⟩, 10,
      ⟨⟨[], "low icon.png".toList, [' '], by decide, by decide⟩, by decide, by decide⟩,
      some ⟨⟨[], "a:b.png".toList, [], by decide, by decide⟩, by decide, by decide⟩, by decide +kernel, by decide⟩,
    ⟨⟨[], "-inf".toList, [], by decide, by decide⟩, .infinity true,
      ⟨⟨[' '], "mid.png".toList, [], by decide, by decide⟩, by decide, by decide⟩, none, by decide +kernel, by decide⟩,
    ⟨⟨[' '], "1e2".toList, [], by decide, by decide⟩, 100,
      ⟨⟨[], "x,y.png".toList, [], by decide, by decide⟩, by decide, by decide⟩,
      some ⟨⟨[' '], ":,z".toList, [' '], by decide, by decide⟩, by decide, by decide⟩, by decide +kernel, by decide⟩]

theorem read_intricate :
    Definition.read " 1_0\t:low icon.png :a:b.png,-inf: mid.png, 1e2:x,y.png: :,z " 3 =
      .ok ⟨[⟨0, 10, "low icon.png", some "a:b.png", none⟩, ⟨10, .infinity true, "mid.png", none, none⟩,
        ⟨.infinity true, 100, "x,y.png", some ":,z", none⟩], []⟩ := by
  have hcommas : ∀ e ∈ intricate.dropLast, e.Commaless := by decide
  have hread := (read_definition intricate (by decide) (by decide) hcommas).1
  have hdefinition : definition intricate = " 1_0\t:low icon.png :a:b.png,-inf: mid.png, 1e2:x,y.png: :,z " := by
    decide +kernel
  have hsteps : steps 0 intricate = [⟨0, 10, "low icon.png", some "a:b.png", none⟩,
      ⟨10, .infinity true, "mid.png", none, none⟩, ⟨.infinity true, 100, "x,y.png", some ":,z", none⟩] := by
    decide +kernel
  rw [hdefinition, hsteps] at hread
  exact hread

end Entry
end Step
end BatteryIndicator
