import BatteryIndicator.Number.Binary64
/-!
# Order — comparing double precision numbers

A comparison that holds is one of ranks (`lt_iff`, `le_iff`), so what is not a number takes part in none.  Among numbers
the order is total: of two numbers that are not in order, the second is the lesser (`lt_of_not_le`).
-/
namespace BatteryIndicator
namespace Binary64

variable {x y z : Binary64}

theorem compareBy_iff {r : Int → Int → Bool} :
    compareBy r x y = true ↔ ∃ i j, x.rank = some i ∧ y.rank = some j ∧ r i j = true := by
  unfold compareBy
  cases x.rank <;> cases y.rank <;> simp

/-- Comparisons compose as those of ranks do. -/
theorem compareBy_trans {r s u : Int → Int → Bool} (hrank : ∀ i j k, r i j = true → s j k = true → u i k = true)
    (h : compareBy r x y = true) (h' : compareBy s y z = true) : compareBy u x z = true := by
  obtain ⟨i, j, hx, hy, hij⟩ := compareBy_iff.1 h
  obtain ⟨j', k, hy', hz, hjk⟩ := compareBy_iff.1 h'
  obtain rfl : j = j' := by rw [hy] at hy'; exact Option.some.inj hy'
  exact compareBy_iff.2 ⟨i, k, hx, hz, hrank i j k hij hjk⟩

theorem lt_iff : x < y ↔ ∃ i j, x.rank = some i ∧ y.rank = some j ∧ i < j := by
  show compareBy _ x y = true ↔ _
  rw [compareBy_iff]
  simp only [decide_eq_true_iff]

theorem le_iff : x ≤ y ↔ ∃ i j, x.rank = some i ∧ y.rank = some j ∧ i ≤ j := by
  show compareBy _ x y = true ↔ _
  rw [compareBy_iff]
  simp only [decide_eq_true_iff]

theorem le_of_equal (h : x.equal y = true) : x ≤ y := by
  obtain ⟨i, j, hx, hy, hij⟩ := compareBy_iff.1 h
  exact le_iff.2 ⟨i, j, hx, hy, Int.le_of_eq (of_decide_eq_true hij)⟩

theorem equal_symm (h : x.equal y = true) : y.equal x = true := by
  obtain ⟨i, j, hx, hy, hij⟩ := compareBy_iff.1 h
  exact compareBy_iff.2 ⟨j, i, hy, hx, by simpa [eq_comm] using hij⟩

theorem le_of_lt (h : x < y) : x ≤ y := by
  obtain ⟨i, j, hx, hy, hij⟩ := lt_iff.1 h
  exact le_iff.2 ⟨i, j, hx, hy, Int.le_of_lt hij⟩

theorem le_trans (h : x ≤ y) (h' : y ≤ z) : x ≤ z :=
  compareBy_trans (fun i j k hij hjk => by simp only [decide_eq_true_iff] at *; omega) h h'

theorem lt_of_lt_of_le (h : x < y) (h' : y ≤ z) : x < z :=
  compareBy_trans (fun i j k hij hjk => by simp only [decide_eq_true_iff] at *; omega) h h'

theorem lt_of_le_of_lt (h : x ≤ y) (h' : y < z) : x < z :=
  compareBy_trans (fun i j k hij hjk => by simp only [decide_eq_true_iff] at *; omega) h h'

theorem not_le_of_lt (h : x < y) : ¬ y ≤ x := by
  intro h'
  obtain ⟨i, j, hx, hy, hij⟩ := lt_iff.1 h
  obtain ⟨j', i', hy', hx', hji⟩ := le_iff.1 h'
  rw [hx] at hx'
  rw [hy] at hy'
  cases hx'
  cases hy'
  omega

/-! ## Numbers -/

theorem isNaN_eq_false_iff : x.isNaN = false ↔ ∃ i, x.rank = some i := by
  cases x <;> simp [isNaN, rank]

/-- What is less than or equal to something is a number. -/
theorem isNaN_left_of_le (h : x ≤ y) : x.isNaN = false := by
  obtain ⟨i, _, hx, _⟩ := le_iff.1 h
  exact isNaN_eq_false_iff.2 ⟨i, hx⟩

/-- What something is less than or equal to is a number. -/
theorem isNaN_right_of_le (h : x ≤ y) : y.isNaN = false := by
  obtain ⟨_, j, _, hy, _⟩ := le_iff.1 h
  exact isNaN_eq_false_iff.2 ⟨j, hy⟩

theorem lt_of_not_le (hx : x.isNaN = false) (hy : y.isNaN = false) (h : ¬ x ≤ y) : y < x := by
  obtain ⟨i, hx⟩ := isNaN_eq_false_iff.1 hx
  obtain ⟨j, hy⟩ := isNaN_eq_false_iff.1 hy
  rw [le_iff] at h
  refine lt_iff.2 ⟨j, i, hy, hx, ?_⟩
  exact Int.not_le.1 fun hij => h ⟨i, j, hx, hy, hij⟩

end Binary64
end BatteryIndicator
