import BatteryIndicator.Number.Numeral
/-!
# Numeral — the characters of numbers

Whatever is read as a number takes up its whole text, so every character of the text is one that numbers are written
with (`admits_of_real?`).  Blanks, colons and commas are not among these.
-/
namespace BatteryIndicator
namespace Numeral

/-- The characters that numbers are written with: the digits of the style, ASCII letters, signs, the point and the
underscore. -/
def Style.admits (y : Style) (c : Char) : Bool := (y.digit? c).isSome || c.isAlpha || ['+', '-', '.', '_'].contains c

variable {y : Style} {s : List Char}

/-! ## Readers

A reader goes over characters of numbers only, so if the text that it leaves has no others, then the text that it was
given has no others either. -/

theorem all_of_row : (y.row s).2.all y.admits = true → s.all y.admits = true := by
  fun_induction Style.row y s with
  | case1 => exact id
  | case2 c s hdigit => exact id
  | case3 c d hdigit t q hgroup ih2 ih1 =>
    intro h
    have ht : t.all y.admits = true := ih1 h
    simp [Style.admits, hdigit, ht]
  | case4 c d hdigit t q hgroup ih2 ih1 =>
    intro h
    rw [List.all_cons, h, Style.admits, hdigit]
    rfl
  | case5 c s d hdigit r hs ih =>
    intro h
    rw [List.all_cons, ih h, Style.admits, hdigit]
    rfl

theorem all_of_sign (h : (sign s).2.all y.admits = true) : s.all y.admits = true := by
  unfold sign at h
  split at h
  · rw [List.all_cons, h]; simp [Style.admits]
  · rw [List.all_cons, h]; simp [Style.admits]
  · exact h

theorem all_of_whole? {n : Bool × List Nat} (h : y.whole? s = some n) : s.all y.admits = true := by
  refine all_of_sign (all_of_row ?_)
  unfold Style.whole? at h
  dsimp only at h
  split at h
  · cases h
  · next hrow => rw [hrow]; rfl
  · cases h

theorem all_of_exponent? {e : Int} (h : y.exponent? s = some e) : s.all y.admits = true := by
  unfold Style.exponent? at h
  split at h
  · rfl
  · next c t =>
    split at h
    · next hmark =>
      obtain ⟨n, hn, -⟩ := Option.map_eq_some_iff.1 h
      have hc : c.isAlpha = true := by
        rcases Bool.or_eq_true _ _ ▸ hmark with hc | hc
        · rw [of_decide_eq_true hc]; decide
        · rw [of_decide_eq_true hc]; decide
      rw [List.all_cons, all_of_whole? hn, Style.admits, hc]
      simp
    · cases h

theorem all_of_magnitude? {negative : Bool} {x : Binary64} (h : y.magnitude? negative s = some x) :
    s.all y.admits = true := by
  unfold Style.magnitude? at h
  dsimp only at h
  refine all_of_row ?_
  -- after the first row of digits there is a point and another row, or the exponent
  split at h
  · next t hpoint =>
    split at h
    · cases h
    · obtain ⟨e, he, -⟩ := Option.map_eq_some_iff.1 h
      rw [hpoint, List.all_cons, all_of_row (all_of_exponent? he)]
      simp [Style.admits]
  · split at h
    · cases h
    · obtain ⟨e, he, -⟩ := Option.map_eq_some_iff.1 h
      exact all_of_exponent? he

theorem isAlpha_of_toLower {c : Char} (h : c.toLower.isAlpha = true) : c.isAlpha = true := by
  unfold Char.toLower at h
  split at h
  · next hupper =>
    unfold Char.isAlpha Char.isUpper
    rw [Bool.or_eq_true]
    exact .inl (by simpa using hupper)
  · exact h

theorem isAlpha_of_word {word : String} (hword : word.toList.all Char.isAlpha = true)
    (h : String.ofList (s.map Char.toLower) = word) {c : Char} (hc : c ∈ s) : c.isAlpha = true := by
  rw [← h, String.toList_ofList, List.all_map, List.all_eq_true] at hword
  exact isAlpha_of_toLower (hword c hc)

theorem all_of_word {word : String} (hword : word.toList.all Char.isAlpha = true)
    (h : String.ofList (s.map Char.toLower) = word) : s.all y.admits = true := by
  rw [List.all_eq_true]
  intro c hc
  rw [Style.admits, isAlpha_of_word hword h hc]
  simp

/-- **A number is written with characters of numbers alone.** -/
theorem admits_of_real? {x : Binary64} (h : y.real? s = some x) {c : Char} (hc : c ∈ s) : y.admits c = true := by
  refine List.all_eq_true.1 (all_of_sign ?_) c hc
  unfold Style.real? at h
  dsimp only at h
  split at h
  · next hword =>
    rw [List.contains_iff_mem] at hword
    simp only [infinityWords, List.mem_cons, List.not_mem_nil, or_false] at hword
    rcases hword with hword | hword
    · exact all_of_word (by decide) hword
    · exact all_of_word (by decide) hword
  · split at h
    · next hword => exact all_of_word (by decide) hword
    · exact all_of_magnitude? h

/-! ## Other characters -/

theorem written_admits_comma : written.admits ',' = false := by decide

theorem written_admits_colon : written.admits ':' = false := by decide

theorem toNat_of_isAlpha {c : Char} (h : c.isAlpha = true) : 65 ≤ c.toNat ∧ c.toNat ≤ 122 := by
  unfold Char.isAlpha Char.isUpper Char.isLower at h
  simp only [Bool.or_eq_true, Bool.and_eq_true, decide_eq_true_eq, ge_iff_le, UInt32.le_iff_toNat_le] at h
  have hnat : c.toNat = c.val.toNat := rfl
  have hA : 'A'.val.toNat = 65 := rfl
  have hZ : 'Z'.val.toNat = 90 := rfl
  have ha : 'a'.val.toNat = 97 := rfl
  have hz : 'z'.val.toNat = 122 := rfl
  omega

theorem of_digitValue? {c : Char} {d : Nat} (h : Text.digitValue? c = some d) :
    ∃ z ∈ 0x30 :: Text.scriptZeros, z ≤ c.toNat ∧ c.toNat < z + 10 := by
  obtain ⟨z, hz, -⟩ := Option.map_eq_some_iff.1 h
  have hbounds : z ≤ c.toNat ∧ c.toNat < z + 10 := by simpa using List.find?_some hz
  have hmem := List.mem_of_find?_eq_some hz
  split at hmem
  · exact ⟨z, List.mem_cons.2 (.inl (List.mem_singleton.1 hmem)), hbounds⟩
  · exact ⟨z, List.mem_cons_of_mem _ hmem, hbounds⟩

/-- No range of blanks meets the digits of a script, and none has a letter. -/
theorem blankRanges_apart : ∀ r ∈ Text.blankRanges,
    (r.2 < 65 ∨ 122 < r.1) ∧ ∀ z ∈ 0x30 :: Text.scriptZeros, r.2 < z ∨ z + 10 ≤ r.1 := by decide

theorem written_admits_of_isBlank {c : Char} (h : Text.isBlank c = true) : written.admits c = false := by
  obtain ⟨r, hr, hlow, hhigh⟩ := Text.inRanges_eq_true_iff.1 h
  obtain ⟨hletters, hdigits⟩ := blankRanges_apart r hr
  have hdigit : Text.digitValue? c = none := by
    rw [Option.eq_none_iff_forall_ne_some]
    intro d hd
    obtain ⟨z, hz, hz₁, hz₂⟩ := of_digitValue? hd
    have := hdigits z hz
    omega
  have halpha : c.isAlpha = false := by
    rw [Bool.eq_false_iff]
    intro hc
    have := toNat_of_isAlpha hc
    omega
  have hsign : c ∉ ['+', '-', '.', '_'] := by
    intro hc
    simp only [List.mem_cons, List.not_mem_nil, or_false] at hc
    rcases hc with rfl | rfl | rfl | rfl <;> revert h <;> decide
  have hwritten : written.digit? c = none := hdigit
  rw [Style.admits, hwritten, halpha]
  simpa using hsign

end Numeral
end BatteryIndicator
