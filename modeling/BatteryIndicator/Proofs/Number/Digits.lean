import BatteryIndicator.Proofs.Number.Numeral
import Mathlib.Data.List.TakeWhile
/-!
# Digits — rows of digits

A row of decimal digits, of whatever scripts, is read to its end and no further: as a row at the front of a text
(`digits_eq`), as a whole number (`int?_of_row`), and as a real number, alone or with a point and a second row behind it
(`real?_decimal`).
-/
namespace BatteryIndicator
namespace Text

variable {p : Char → Bool} {c : Char} {r s : List Char}

/-- A text of characters of one kind, and of one at least. -/
structure IsRow (p : Char → Bool) (s : List Char) : Prop where
  nonempty : s ≠ []
  all : ∀ c ∈ s, p c = true

instance (p : Char → Bool) (s : List Char) : Decidable (IsRow p s) :=
  decidable_of_iff (s.isEmpty = false ∧ s.all p = true)
    ⟨fun h => ⟨List.isEmpty_eq_false_iff.1 h.1, List.all_eq_true.1 h.2⟩,
      fun h => ⟨List.isEmpty_eq_false_iff.2 h.nonempty, List.all_eq_true.2 h.all⟩⟩

theorem isRow_takeWhile (h : s.takeWhile p ≠ []) : IsRow p (s.takeWhile p) := ⟨h, fun _ hc => List.mem_takeWhile_imp hc⟩

theorem IsRow.takeWhile_append (h : IsRow p s) (hr : r.head? = some c) (hc : p c = false) :
    (s ++ r).takeWhile p = s := by
  obtain ⟨r, rfl⟩ := List.head?_eq_some_iff.1 hr
  rw [List.takeWhile_append_of_pos h.all, List.takeWhile_cons_of_neg (Bool.eq_false_iff.1 hc), List.append_nil]

theorem IsRow.dropWhile_append (h : IsRow p s) (hr : r.head? = some c) (hc : p c = false) :
    (s ++ r).dropWhile p = r := by
  obtain ⟨r, rfl⟩ := List.head?_eq_some_iff.1 hr
  rw [List.dropWhile_append_of_pos h.all, List.dropWhile_cons_of_neg (Bool.eq_false_iff.1 hc)]

/-! ## Digits -/

/-- The values of the digits of a text. -/
def values (s : List Char) : List Nat := s.filterMap digitValue?

@[simp] theorem values_nil : values [] = [] := rfl

theorem values_cons {d : Nat} (hc : digitValue? c = some d) (s : List Char) : values (c :: s) = d :: values s :=
  List.filterMap_cons_some hc

theorem digits_eq : ∀ s : List Char, digits s = (values (s.takeWhile isDigit), s.dropWhile isDigit)
  | [] => rfl
  | c :: s => by
    rw [digits]
    cases hc : digitValue? c with
    | none =>
      have hdigit : ¬isDigit c = true := by simp [isDigit, hc]
      rw [List.takeWhile_cons_of_neg hdigit, List.dropWhile_cons_of_neg hdigit]
      rfl
    | some d =>
      have hdigit : isDigit c = true := by simp [isDigit, hc]
      rw [List.takeWhile_cons_of_pos hdigit, List.dropWhile_cons_of_pos hdigit, digits_eq s,
        values_cons hc]

theorem length_values : ∀ {s : List Char}, (∀ c ∈ s, isDigit c = true) → (values s).length = s.length
  | [], _ => rfl
  | c :: s, h => by
    obtain ⟨d, hd⟩ := Option.isSome_iff_exists.1 (h c List.mem_cons_self)
    have ih := length_values fun x hx => h x (List.mem_cons_of_mem c hx)
    rw [values_cons hd, List.length_cons, ih, List.length_cons]

theorem IsRow.length_values (h : IsRow isDigit s) : (values s).length = s.length := Text.length_values h.all

theorem IsRow.values_ne_nil (h : IsRow isDigit s) : values s ≠ [] := by
  rw [← List.length_pos_iff, h.length_values]
  exact List.length_pos_iff.2 h.nonempty

theorem toNat_of_isDigit (h : isDigit c = true) : 48 ≤ c.toNat ∧ c.toNat ≤ 57 ∨ 128 ≤ c.toNat := by
  have hscripts : ∀ z ∈ scriptZeros, 128 ≤ z := by decide
  obtain ⟨d, hd⟩ := Option.isSome_iff_exists.1 h
  obtain ⟨z, hz, hlow, hhigh⟩ := Numeral.of_digitValue? hd
  rcases List.mem_cons.1 hz with rfl | hz
  · omega
  · have := hscripts z hz
    omega

theorem isAlpha_of_isDigit (h : isDigit c = true) : c.isAlpha = false := by
  rw [Bool.eq_false_iff]
  intro hc
  have := toNat_of_isDigit h
  have := Numeral.toNat_of_isAlpha hc
  omega

end Text

namespace Numeral

open Text (IsRow values values_cons isDigit)

variable {s r : List Char}

theorem row_append : ∀ {s : List Char}, (∀ c ∈ s, isDigit c = true) →
    (∀ c ∈ r.head?, isDigit c = false ∧ c ≠ '_') → written.row (s ++ r) = (values s, r)
  | [], _, hr => by
    cases r with
    | nil => rfl
    | cons c r =>
      have hc : written.digit? c = none := Option.not_isSome_iff_eq_none.1 (Bool.eq_false_iff.1 (hr c rfl).1)
      rw [List.nil_append, Style.row, hc]
      rfl
  | c :: s, hs, hr => by
    obtain ⟨d, hd⟩ := Option.isSome_iff_exists.1 (hs c List.mem_cons_self)
    have ih := row_append (fun x hx => hs x (List.mem_cons_of_mem c hx)) hr
    -- an underscore would have to stand in front of the rest, for it is no digit
    have hgroup : ∀ t, s ++ r ≠ '_' :: t := by
      intro t ht
      cases s with
      | nil => exact (hr '_' (by rw [List.nil_append] at ht; rw [ht]; rfl)).2 rfl
      | cons x s =>
        have hx := hs x (List.mem_cons_of_mem c List.mem_cons_self)
        rw [(List.cons.inj ht).1] at hx
        exact absurd hx (by decide)
    have hdigit : written.digit? c = some d := hd
    rw [List.cons_append, Style.row, hdigit]
    dsimp only
    split
    · next t ht => exact absurd ht (hgroup t)
    · rw [ih, values_cons hd]

theorem sign_append (hs : IsRow isDigit s) (r : List Char) : sign (s ++ r) = (false, s ++ r) := by
  obtain ⟨c, s, rfl⟩ := List.exists_cons_of_ne_nil hs.nonempty
  have hc := hs.all c List.mem_cons_self
  unfold sign
  split
  · next heq => rw [(List.cons.inj heq).1] at hc; exact absurd hc (by decide)
  · next heq => rw [(List.cons.inj heq).1] at hc; exact absurd hc (by decide)
  · rfl

/-- **A row of digits that is not too long writes a whole number.** -/
theorem int?_of_row (hs : IsRow isDigit s) (hlength : s.length ≤ digitLimit) :
    int? s = some (Text.ofDigits (values s) : Int) := by
  have hsign := sign_append hs []
  have hrow := row_append (r := []) hs.all nofun
  rw [List.append_nil] at hsign hrow
  have hwhole : written.whole? s = some (false, values s) := by
    unfold Style.whole?
    rw [hsign]
    dsimp only
    rw [hrow]
    cases hvalues : values s with
    | nil => exact absurd hvalues hs.values_ne_nil
    | cons d ds => rfl
  have hfits : ¬digitLimit < (values s).length := by
    rw [hs.length_values]
    exact Nat.not_lt.2 hlength
  simp [int?, hwhole, hfits]

/-- Digits, and perhaps a point and more digits. -/
def decimal (whole : List Char) : Option (List Char) → List Char
  | none => whole
  | some fraction => whole ++ '.' :: fraction

theorem real?_of_row (hs : IsRow isDigit s) (r : List Char) :
    written.real? (s ++ r) = written.magnitude? false (s ++ r) := by
  obtain ⟨c, t, hc⟩ := List.exists_cons_of_ne_nil hs.nonempty
  have hfirst : c ∈ s := hc ▸ List.mem_cons_self
  -- the words for what is no real number are made of letters
  have hword : ∀ word : String, word.toList.all Char.isAlpha = true →
      String.ofList ((s ++ r).map Char.toLower) ≠ word := by
    intro word hletters h
    have halpha := isAlpha_of_word hletters h (List.mem_append_left r hfirst)
    rw [Text.isAlpha_of_isDigit (hs.all c hfirst)] at halpha
    cases halpha
  unfold Style.real?
  rw [sign_append hs]
  dsimp only
  rw [if_neg, if_neg (hword "nan" (by decide))]
  rw [List.contains_iff_mem]
  simp only [infinityWords, List.mem_cons, List.not_mem_nil, or_false, not_or]
  exact ⟨hword "inf" (by decide), hword "infinity" (by decide)⟩

/-- **Digits with or without a point write a real number.** -/
theorem real?_decimal {whole : List Char} {fraction : Option (List Char)} (hwhole : IsRow isDigit whole)
    (hfraction : ∀ f ∈ fraction, IsRow isDigit f) :
    written.real? (decimal whole fraction) = some (.ofDecimal false
      (Text.ofDigits (values whole ++ values (fraction.getD []))) (-((fraction.getD []).length : Int))) := by
  cases fraction with
  | none =>
    have hrow := row_append (r := []) hwhole.all nofun
    have hreal := real?_of_row hwhole []
    rw [List.append_nil] at hrow hreal
    rw [decimal, hreal, Style.magnitude?, hrow]
    simp [hwhole.values_ne_nil, Style.exponent?]
  | some f =>
    have hf := hfraction f rfl
    have hrow := row_append (r := '.' :: f) hwhole.all (by
      rintro c ⟨⟩
      decide)
    have hrest := row_append (r := []) hf.all nofun
    rw [List.append_nil] at hrest
    rw [decimal, real?_of_row hwhole, Style.magnitude?, hrow]
    simp [hrest, hwhole.values_ne_nil, Style.exponent?, hf.length_values]

end Numeral
end BatteryIndicator
