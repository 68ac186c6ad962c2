import BatteryIndicator.Number.Binary64
import Mathlib.Tactic.Ring
/-!
# Nearest — where rounding goes

The grid of magnitudes rises from place to place (`units_lt_succ`), and rounding goes to a place or below it exactly when
the exact result does not reach the midpoint to the next place, or lies on that midpoint and the place is even
(`nearest_le_iff`).  So a whole number is rounded to infinity from `2^1024 - 2^970` on (`ofInt?_eq_none_iff`): there lies
the midpoint between the last finite place and infinity.
-/
namespace BatteryIndicator
namespace Binary64

variable {n d k s j : Nat}

/-! ## Rounding to whole numbers -/

theorem halfEven_le_iff (hd : 0 < d) :
    halfEven n d ≤ k ↔ 2 * n < (2 * k + 1) * d ∨ 2 * n = (2 * k + 1) * d ∧ k % 2 = 0 := by
  have hn : d * (n / d) + n % d = n := Nat.div_add_mod n d
  have hr : n % d < d := Nat.mod_lt n hd
  unfold halfEven
  generalize n / d = q at *
  generalize n % d = r at *
  subst hn
  rcases Nat.lt_trichotomy k q with hk | rfl | hk
  · -- every choice is `q` at least, and the midpoint above `k` is not reached below `q`
    have hmid : (2 * k + 1) * d + d ≤ 2 * (d * q) := by
      calc (2 * k + 1) * d + d = 2 * (d * (k + 1)) := by ring
        _ ≤ 2 * (d * q) := Nat.mul_le_mul_left 2 (Nat.mul_le_mul_left d hk)
    constructor
    · intro h
      split at h
      · omega
      · split at h <;> omega
    · omega
  · have hmid : (2 * k + 1) * d = 2 * (d * k) + d := by ring
    rw [hmid]
    split
    · omega
    · split <;> omega
  · have hmid : 2 * (d * q) + 3 * d ≤ (2 * k + 1) * d := by
      calc 2 * (d * q) + 3 * d = (2 * (q + 1) + 1) * d := by ring
        _ ≤ (2 * k + 1) * d := Nat.mul_le_mul_right d (by omega)
    constructor
    · omega
    · intro _
      split
      · omega
      · split <;> omega

/-! ## The grid -/

/-- Between two powers of two, the magnitudes are evenly spaced. -/
theorem units_add (h : s = 0 ∨ 2 ^ 52 ≤ j) (hj : j ≤ 2 ^ 53) : units (s * 2 ^ 52 + j) = j * 2 ^ s := by
  unfold units
  simp only [Nat.pow_eq]
  by_cases hsmall : j < 2 ^ 52
  · obtain rfl : s = 0 := by omega
    rw [Nat.zero_mul, Nat.zero_add, if_pos hsmall, Nat.pow_zero, Nat.mul_one]
  · rw [if_neg (by omega)]
    by_cases hlast : j = 2 ^ 53
    · have hdiv : (s * 2 ^ 52 + j) / 2 ^ 52 - 1 = s + 1 := by omega
      have hmod : (s * 2 ^ 52 + j) % 2 ^ 52 = 0 := by omega
      rw [hdiv, hmod, hlast, Nat.pow_succ]
      ring
    · have hdiv : (s * 2 ^ 52 + j) / 2 ^ 52 - 1 = s := by omega
      have hmod : 2 ^ 52 + (s * 2 ^ 52 + j) % 2 ^ 52 = j := by omega
      rw [hdiv, hmod]

/-- Every place lies in one of the evenly spaced rows. -/
theorem exists_row (k : Nat) : ∃ s j, k = s * 2 ^ 52 + j ∧ (s = 0 ∨ 2 ^ 52 ≤ j) ∧ j < 2 ^ 53 := by
  by_cases hk : k < 2 ^ 52
  · exact ⟨0, k, by omega, .inl rfl, by omega⟩
  · exact ⟨k / 2 ^ 52 - 1, 2 ^ 52 + k % 2 ^ 52, by omega, .inr (by omega), by omega⟩

theorem units_lt_succ (k : Nat) : units k < units (k + 1) := by
  obtain ⟨s, j, rfl, hrow, hj⟩ := exists_row k
  rw [Nat.add_assoc, units_add hrow (by omega), units_add (by omega) (by omega)]
  exact Nat.mul_lt_mul_of_pos_right (Nat.lt_succ_self j) (Nat.two_pow_pos s)

theorem units_le_units (h : j ≤ k) : units j ≤ units k := by
  induction h with
  | refl => exact Nat.le_refl _
  | step _ ih => exact Nat.le_trans ih (Nat.le_of_lt (units_lt_succ _))

/-! ## Midpoints

The midpoint between a place and the next one, as the sum of their units. -/

theorem midpoint_in_row (h : s = 0 ∨ 2 ^ 52 ≤ j) (hj : j < 2 ^ 53) :
    units (s * 2 ^ 52 + j) + units (s * 2 ^ 52 + j + 1) = (2 * j + 1) * 2 ^ s := by
  rw [Nat.add_assoc, units_add h (by omega), units_add (by omega) (by omega)]
  ring

theorem midpoint_below_row (h : k < s * 2 ^ 52 + 2 ^ 52) : units k + units (k + 1) < 2 * (2 ^ 52 * 2 ^ s) := by
  have hle : units (k + 1) ≤ units (s * 2 ^ 52 + 2 ^ 52) := units_le_units (by omega)
  rw [units_add (.inr (Nat.le_refl _)) (by decide)] at hle
  have := units_lt_succ k
  omega

theorem midpoint_above_row (h : s * 2 ^ 52 + 2 ^ 53 ≤ k) : 2 * (2 ^ 53 * 2 ^ s) ≤ units k + units (k + 1) := by
  have hle := units_le_units h
  rw [units_add (.inr (by decide)) (Nat.le_refl _)] at hle
  have := units_lt_succ k
  omega

/-! ## The nearest place -/

/-- The row that a quotient is rounded in holds it. -/
theorem quotient_in_row (n : Nat) (hd : 0 < d) :
    n < 2 ^ 53 * (d * 2 ^ ((n / d).log2 - 52)) ∧
      ((n / d).log2 - 52 = 0 ∨ 2 ^ 52 * (d * 2 ^ ((n / d).log2 - 52)) ≤ n) := by
  have hbelow : n < (n / d + 1) * d := by
    have hn : d * (n / d) + n % d = n := Nat.div_add_mod n d
    have hr : n % d < d := Nat.mod_lt n hd
    calc n = d * (n / d) + n % d := hn.symm
      _ < d * (n / d) + d := by omega
      _ = (n / d + 1) * d := by ring
  have habove : n / d * d ≤ n := Nat.div_mul_le_self n d
  generalize n / d = q at *
  have hq : q < 2 ^ (q.log2 + 1) := Nat.lt_log2_self
  constructor
  · have hrow : q + 1 ≤ 2 ^ 53 * 2 ^ (q.log2 - 52) := by
      rw [← Nat.pow_add]
      exact Nat.le_trans hq (Nat.pow_le_pow_right (by decide) (by omega))
    calc n < (q + 1) * d := hbelow
      _ ≤ 2 ^ 53 * 2 ^ (q.log2 - 52) * d := Nat.mul_le_mul_right d hrow
      _ = 2 ^ 53 * (d * 2 ^ (q.log2 - 52)) := by ring
  · by_cases hs : q.log2 - 52 = 0
    · exact .inl hs
    · have hpos : q ≠ 0 := by
        rintro rfl
        exact hs (by decide)
      have hrow : 2 ^ 52 * 2 ^ (q.log2 - 52) ≤ q := by
        rw [← Nat.pow_add]
        exact (Nat.le_log2 hpos).1 (by omega)
      refine .inr ?_
      calc 2 ^ 52 * (d * 2 ^ (q.log2 - 52)) = 2 ^ 52 * 2 ^ (q.log2 - 52) * d := by ring
        _ ≤ q * d := Nat.mul_le_mul_right d hrow
        _ ≤ n := habove

/-- **Rounding goes to a place or below it exactly up to the midpoint to the next place**, and on the midpoint if the
place is even. -/
theorem nearest_le_iff (hd : 0 < d) :
    nearest n d ≤ k ↔
      2 * n < (units k + units (k + 1)) * d ∨ 2 * n = (units k + units (k + 1)) * d ∧ k % 2 = 0 := by
  obtain ⟨hbelow, habove⟩ := quotient_in_row n hd
  unfold nearest
  simp only [Nat.pow_eq]
  generalize (n / d).log2 - 52 = s at *
  rw [Nat.mul_comm (2 ^ 52) s]
  have hpos : 0 < d * 2 ^ s := Nat.mul_pos hd (Nat.two_pow_pos s)
  have hlow : s = 0 ∨ 2 ^ 52 ≤ halfEven n (d * 2 ^ s) := by
    refine habove.imp_right fun h => Nat.le_of_not_lt fun hlt => ?_
    have hle := (halfEven_le_iff hpos).1 (Nat.le_refl (halfEven n (d * 2 ^ s)))
    have hmid : (2 * halfEven n (d * 2 ^ s) + 1) * (d * 2 ^ s) + d * 2 ^ s ≤ 2 * (2 ^ 52 * (d * 2 ^ s)) := by
      calc (2 * halfEven n (d * 2 ^ s) + 1) * (d * 2 ^ s) + d * 2 ^ s
          = 2 * ((halfEven n (d * 2 ^ s) + 1) * (d * 2 ^ s)) := by ring
        _ ≤ 2 * (2 ^ 52 * (d * 2 ^ s)) := Nat.mul_le_mul_left 2 (Nat.mul_le_mul_right (d * 2 ^ s) hlt)
    omega
  have hhigh : halfEven n (d * 2 ^ s) ≤ 2 ^ 53 := (halfEven_le_iff hpos).2 (.inl (by omega))
  rcases Nat.lt_or_ge k (s * 2 ^ 52 + 2 ^ 53) with hk | hk
  · by_cases hrow : s = 0 ∨ s * 2 ^ 52 + 2 ^ 52 ≤ k
    · -- the place lies in the row that is rounded in
      obtain ⟨j, rfl⟩ : ∃ j, k = s * 2 ^ 52 + j := ⟨k - s * 2 ^ 52, by omega⟩
      have hmid : (2 * j + 1) * 2 ^ s * d = (2 * j + 1) * (d * 2 ^ s) := by ring
      have hparity : (s * 2 ^ 52 + j) % 2 = j % 2 := by omega
      rw [midpoint_in_row (by omega) (by omega), hmid, hparity, ← halfEven_le_iff hpos]
      omega
    · -- the place lies below the row, and so does the midpoint above it
      have hlt : k < s * 2 ^ 52 + 2 ^ 52 := Nat.lt_of_not_le fun hle => hrow (.inr hle)
      have hmidpoint := midpoint_below_row hlt
      have hmid : (units k + units (k + 1)) * d < 2 * (2 ^ 52 * (d * 2 ^ s)) := by
        calc (units k + units (k + 1)) * d < 2 * (2 ^ 52 * 2 ^ s) * d := Nat.mul_lt_mul_of_pos_right hmidpoint hd
          _ = 2 * (2 ^ 52 * (d * 2 ^ s)) := by ring
      omega
  · -- the place lies at the end of the row or above it
    have hmid : 2 * (2 ^ 53 * (d * 2 ^ s)) ≤ (units k + units (k + 1)) * d := by
      calc 2 * (2 ^ 53 * (d * 2 ^ s)) = 2 * (2 ^ 53 * 2 ^ s) * d := by ring
        _ ≤ (units k + units (k + 1)) * d := Nat.mul_le_mul_right d (midpoint_above_row hk)
    omega

/-! ## Whole numbers -/

/-- The units of the number one. -/
def unitsOfOne : Nat := Nat.pow 2 1074

/-- The first whole number that is rounded to infinity: the midpoint between the last finite place and `2^1024`. -/
def beyondFinite : Nat := Nat.pow 2 1024 - Nat.pow 2 970

theorem isFinite_ofInt_iff (n : Nat) : (ofInt n).isFinite = true ↔ nearest (unitsOfOne * n) 1 ≤ top - 1 := by
  have htop : 0 < top := by decide
  have hround : (ofInt n).isFinite = decide (min (nearest (unitsOfOne * n) 1) top < top) := by
    unfold ofInt round ofPlace isFinite unitsOfOne
    rw [Int.natAbs_natCast]
  rw [hround, decide_eq_true_iff]
  generalize nearest (unitsOfOne * n) 1 = place
  omega

theorem units_last_add_units_top : units (top - 1) + units (top - 1 + 1) = 2 * (unitsOfOne * beyondFinite) := by
  have hlast : top - 1 = 2045 * 2 ^ 52 + (2 ^ 53 - 1) := by decide
  rw [hlast, Nat.add_assoc, units_add (by omega) (by omega), units_add (by omega) (by omega)]
  decide +kernel

/-- **A whole number is rounded to infinity from `2^1024 - 2^970` on.** -/
theorem ofInt?_eq_none_iff (n : Nat) : ofInt? n = none ↔ beyondFinite ≤ n := by
  have hunit : 0 < unitsOfOne := by decide +kernel
  have hodd : (top - 1) % 2 ≠ 0 := by decide
  have hplace : nearest (unitsOfOne * n) 1 ≤ top - 1 ↔ n < beyondFinite := by
    rw [nearest_le_iff Nat.one_pos, units_last_add_units_top, Nat.mul_one, Nat.mul_lt_mul_left Nat.two_pos,
      Nat.mul_lt_mul_left hunit]
    exact or_iff_left fun h => hodd h.2
  rw [← Nat.not_lt, ← hplace, ← isFinite_ofInt_iff, ofInt?]
  split <;> simp [*]

end Binary64
end BatteryIndicator
