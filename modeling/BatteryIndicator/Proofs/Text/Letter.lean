import BatteryIndicator.Proofs.Number.Numeral
import BatteryIndicator.Text.Blank
import BatteryIndicator.Text.LowerCase
import BatteryIndicator.Text.Word
/-!
# Letter — word characters and their lower case

No word character is a blank.  In lower case ASCII stays ASCII, letter by letter, and almost nothing else becomes it: two
letters from beyond come to an `i` and a `k` (`mem_lower_of_ascii`).
-/
namespace BatteryIndicator
namespace Text

variable {c d : Char} {s before : List Char}

/-- What holds of the first 128 code points holds of the characters of ASCII. -/
theorem forall_ascii {P : Char → Prop} (h : ∀ n < 128, P (Char.ofNat n)) (hc : c.toNat < 128) : P c := by
  have hn := h c.toNat hc
  rwa [Char.ofNat_toNat] at hn

theorem not_isBlank_of_isWord (h : isWord c = true) : isBlank c = false := by
  have hranges : ∀ r ∈ blankRanges, (r.2 < 48 ∨ 122 < r.1) ∧ ∀ w ∈ wordRanges, r.2 < w.1 ∨ w.2 < r.1 := by
    decide +kernel
  rw [Bool.eq_false_iff]
  intro hblank
  obtain ⟨r, hr, hlow, hhigh⟩ := inRanges_eq_true_iff.1 hblank
  obtain ⟨hascii, hbeyond⟩ := hranges r hr
  unfold isWord at h
  split at h
  · have hbounds : 48 ≤ c.toNat ∧ c.toNat ≤ 122 := by
      simp only [Char.isAlphanum, Bool.or_eq_true, beq_iff_eq] at h
      rcases h with (halpha | hdigit) | rfl
      · have := Numeral.toNat_of_isAlpha halpha
        omega
      · simp only [Char.isDigit, Bool.and_eq_true, decide_eq_true_eq, ge_iff_le, UInt32.le_iff_toNat_le] at hdigit
        have hnat : c.toNat = c.val.toNat := rfl
        have hzero : '0'.val.toNat = 48 := rfl
        have hnine : '9'.val.toNat = 57 := rfl
        omega
      · decide
    omega
  · obtain ⟨w, hw, hlow', hhigh'⟩ := inRanges_eq_true_iff.1 h
    have := hbeyond w hw
    omega

/-! ## Lower case -/

theorem lowerChar_of_ascii (h : c.toNat < 128) : lowerChar c = [c.toLower] := if_pos h

/-- The lower case of a text of ASCII characters. -/
theorem lower_of_ascii (h : ∀ c ∈ s, c.toNat < 128) : lower s = s.map Char.toLower := by
  have hafter : ∀ before, lowerAfter before s = s.map Char.toLower := by
    induction s with
    | nil => exact fun _ => rfl
    | cons c s ih =>
      intro before
      have hc : c.toNat < 128 := h c List.mem_cons_self
      rw [lowerAfter, if_neg (by omega), lowerChar_of_ascii hc, ih (fun d hd => h d (List.mem_cons_of_mem _ hd)),
        List.map_cons, List.singleton_append]
  exact hafter []

/-- Every row of capital letters has its small letters beyond ASCII, but for the sign of the kelvin. -/
theorem caseRuns_beyond : ∀ r ∈ caseRuns,
    128 ≤ (r.first : Int) + r.shift ∧
        ((r.last : Int) + r.shift < 0xd800 ∨ 0xe000 ≤ (r.first : Int) + r.shift ∧ (r.last : Int) + r.shift < 0x110000) ∨
      r.first = 0x212a ∧ r.last = 0x212a ∧ r.shift = -8383 := by
  decide +kernel

theorem mem_lowerChar_of_ascii (h : d ∈ lowerChar c) (hd : d.toNat < 128) :
    c.toNat < 128 ∧ d = c.toLower ∨ d = 'i' ∨ d = 'k' := by
  unfold lowerChar at h
  split at h
  · next hc => exact .inl ⟨hc, List.mem_singleton.1 h⟩
  next hc =>
  split at h
  · rcases List.mem_cons.1 h with rfl | h
    · exact .inr (.inl rfl)
    · rw [List.mem_singleton.1 h] at hd
      exact absurd hd (by decide)
  split at h
  · next r hr =>
    rw [List.mem_singleton] at h
    have hbounds := List.find?_some hr
    simp only [Bool.and_eq_true, decide_eq_true_eq] at hbounds
    obtain ⟨⟨hfirst, hlast⟩, -⟩ := hbounds
    rcases caseRuns_beyond r (List.mem_of_find?_eq_some hr) with ⟨hlow, hvalid⟩ | ⟨hfirst', hlast', hshift⟩
    · -- the small letter is a character with the code point that the row says
      have hpoint : Nat.isValidChar (c.toNat + r.shift).toNat := by
        unfold Nat.isValidChar
        omega
      have hnat : d.toNat = (c.toNat + r.shift).toNat := by
        rw [h, Char.ofNat, dif_pos hpoint]
        rfl
      omega
    · have hkelvin : c.toNat = 0x212a := by omega
      rw [h, hkelvin, hshift]
      exact .inr (.inr rfl)
  · rw [List.mem_singleton.1 h] at hd
    exact absurd hd hc

/-- **What is ASCII in lower case was ASCII before**, but for an `i` and a `k`. -/
theorem mem_lower_of_ascii (h : d ∈ lower s) (hd : d.toNat < 128) :
    (∃ c ∈ s, c.toNat < 128 ∧ d = c.toLower) ∨ d = 'i' ∨ d = 'k' := by
  have hafter : ∀ before, d ∈ lowerAfter before s → (∃ c ∈ s, c.toNat < 128 ∧ d = c.toLower) ∨ d = 'i' ∨ d = 'k' := by
    clear h
    induction s with
    | nil => exact fun _ h => absurd h List.not_mem_nil
    | cons c s ih =>
      intro before h
      rw [lowerAfter, List.mem_append] at h
      rcases h with h | h
      · split at h
        · -- a sigma stays beyond ASCII
          split at h <;> (rw [List.mem_singleton.1 h] at hd; exact absurd hd (by decide))
        · rcases mem_lowerChar_of_ascii h hd with ⟨hc, hd⟩ | hd
          · exact .inl ⟨c, List.mem_cons_self, hc, hd⟩
          · exact .inr hd
      · rcases ih _ h with ⟨e, he, hd⟩ | hd
        · exact .inl ⟨e, List.mem_cons_of_mem _ he, hd⟩
        · exact .inr hd
  exact hafter [] h

end Text
end BatteryIndicator
