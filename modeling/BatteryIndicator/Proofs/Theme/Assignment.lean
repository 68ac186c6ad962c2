import BatteryIndicator.Proofs.Number.Numeral
import BatteryIndicator.Proofs.Text.Cut
import BatteryIndicator.Theme.Line
/-!
# Assignment — a key and a value on a line

A key, an equals sign and a value, with a blank on both sides of the sign, are a line that sets the key, in lower case,
to the value without the blanks around it, if that is on one line (`classify_assignment`).
-/
namespace BatteryIndicator
namespace Theme
namespace Line

open Text

variable {c : Char} {key value : List Char}

theorem toNat_of_startsKey (h : startsKey c = true) : 65 ≤ c.toNat ∧ c.toNat ≤ 122 := by
  rcases Bool.or_eq_true_iff.1 h with halpha | hunderscore
  · have := Numeral.toNat_of_isAlpha halpha
    omega
  · rw [beq_iff_eq.1 hunderscore]
    decide

theorem of_startsKey (h : startsKey c = true) : isBlank c = false ∧ c ≠ '#' ∧ c ≠ ';' ∧ c ≠ '[' := by
  have hrange := toNat_of_startsKey h
  refine ⟨?_, ?_, ?_, ?_⟩
  · rw [Bool.eq_false_iff]
    intro hblank
    obtain ⟨r, hr, hlow, hhigh⟩ := inRanges_eq_true_iff.1 hblank
    have := (Numeral.blankRanges_apart r hr).1
    omega
  all_goals
    rintro rfl
    revert h
    decide

def assignment (key value : List Char) : List Char := key ++ ' ' :: '=' :: ' ' :: value

theorem trim_assignment (hstart : startsKey c = true) (key value : List Char) :
    trim (assignment (c :: key) value) = c :: (key ++ ' ' :: '=' :: trimEnd (' ' :: value)) := by
  have hfirst : trimStart (c :: key ++ [' ']) = c :: key ++ [' '] :=
    List.dropWhile_cons_of_neg (by simp [(of_startsKey hstart).1])
  have hline : assignment (c :: key) value = (c :: key ++ [' ']) ++ '=' :: ' ' :: value := by simp [assignment]
  rw [hline, trim_append_cons _ (by decide), hfirst]
  simp

theorem keyed?_assignment (hstart : startsKey c = true) (hkey : ∀ x ∈ key, inKey x = true) (hvalue : '\n' ∉ trim value) :
    keyed? (c :: (key ++ ' ' :: '=' :: trimEnd (' ' :: value))) = some (c :: key, trim value) := by
  have htake : (key ++ ' ' :: '=' :: trimEnd (' ' :: value)).takeWhile inKey = key := by
    rw [List.takeWhile_append_of_pos hkey, List.takeWhile_cons_of_neg (by decide), List.append_nil]
  have hdrop : trimStart ((key ++ ' ' :: '=' :: trimEnd (' ' :: value)).dropWhile inKey) =
      '=' :: trimEnd (' ' :: value) := by
    rw [List.dropWhile_append_of_pos hkey, List.dropWhile_cons_of_neg (by decide)]
    rfl
  have hrest : trimStart (trimEnd (' ' :: value)) = trim value := trimStart_trimEnd (' ' :: value)
  rw [keyed?, if_pos hstart, hdrop]
  simp [hrest, htake, hvalue]

/-- **A key and a value are read back**: the key in lower case, the value without the blanks around it. -/
theorem classify_assignment (hstart : startsKey c = true) (hkey : ∀ x ∈ key, inKey x = true)
    (hvalue : '\n' ∉ trim value) :
    classify (String.ofList (assignment (c :: key) value)) =
      .pair (String.ofList (lower (c :: key))) (String.ofList (trim value)) := by
  obtain ⟨-, hhash, hsemicolon, hbracket⟩ := of_startsKey hstart
  have hcomment : startsComment (c :: (key ++ ' ' :: '=' :: trimEnd (' ' :: value))) = false := by
    simp [startsComment, hhash, hsemicolon]
  have hheader : bracketed? (c :: (key ++ ' ' :: '=' :: trimEnd (' ' :: value))) = none := by
    unfold bracketed?
    split
    · next heq => cases heq; exact absurd rfl hbracket
    · rfl
  rw [classify, String.toList_ofList, trim_assignment hstart, ofTrimmed, hcomment, hheader,
    keyed?_assignment hstart hkey hvalue]
  simp

end Line
end Theme
end BatteryIndicator
