import BatteryIndicator.Proofs.Number.Nearest
import BatteryIndicator.Proofs.Number.Order
/-!
# Within — bounds that rounding keeps

A result that does not exceed a place of the grid is not rounded beyond it (`nearest_le_of_le`), and every whole number
up to `2^53` has a place (`exists_place`).  So sums, products and quotients of numbers between zero and such bounds lie
between zero and the sum, the product or the quotient of the bounds, however often they are rounded on the way.
-/
namespace BatteryIndicator
namespace Binary64

variable {x y : Binary64} {a b d k m n : Nat}

/-! ## Places that are met -/

/-- **Rounding does not go beyond a place that the exact result does not exceed.** -/
theorem nearest_le_of_le (hd : 0 < d) (h : n ≤ units k * d) : nearest n d ≤ k := by
  rw [nearest_le_iff hd]
  refine .inl ?_
  calc 2 * n ≤ 2 * (units k * d) := Nat.mul_le_mul_left 2 h
    _ = (units k + units k) * d := by ring
    _ < (units k + units (k + 1)) * d := Nat.mul_lt_mul_of_pos_right (Nat.add_lt_add_left (units_lt_succ k) _) hd

theorem units_zero : units 0 = 0 := rfl

theorem nearest_units (k : Nat) : nearest (units k) 1 = k := by
  have hle : nearest (units k) 1 ≤ k := nearest_le_of_le Nat.one_pos (Nat.mul_one _).ge
  cases k with
  | zero => omega
  | succ j =>
    refine Nat.le_antisymm hle (Nat.lt_of_not_le fun hbelow => ?_)
    have hmid := (nearest_le_iff Nat.one_pos).1 hbelow
    have := units_lt_succ j
    omega

theorem units_lt_units_iff {j : Nat} : units j < units k ↔ j < k := by
  refine ⟨fun h => Nat.lt_of_not_le fun hle => ?_, fun h => ?_⟩
  · exact Nat.not_lt_of_le (units_le_units hle) h
  · exact Nat.lt_of_lt_of_le (units_lt_succ j) (units_le_units h)

theorem unitsOfOne_eq {s t : Nat} (h : s + t = 1074) : unitsOfOne = 2 ^ s * 2 ^ t := by
  unfold unitsOfOne
  rw [← h, Nat.pow_eq, Nat.pow_add]

theorem unitsOfOne_pos : 0 < unitsOfOne := by decide +kernel

/-- **Every whole number up to `2^53` has a finite place.** -/
theorem exists_place (hm : m ≤ 2 ^ 53) : ∃ k, k < top ∧ units k = unitsOfOne * m := by
  have htop : top = 2047 * 2 ^ 52 := by decide
  by_cases hzero : m = 0
  · exact ⟨0, by decide, by rw [hzero, Nat.mul_zero, units_zero]⟩
  -- shifted by `t`, the number has 53 binary digits or is `2^53`
  obtain ⟨t, ht, hlow, hhigh⟩ : ∃ t ≤ 52, 2 ^ 52 ≤ m * 2 ^ t ∧ m * 2 ^ t ≤ 2 ^ 53 := by
    refine ⟨52 - m.log2, Nat.sub_le _ _, ?_, ?_⟩
    · calc 2 ^ 52 ≤ 2 ^ (m.log2 + (52 - m.log2)) := Nat.pow_le_pow_right Nat.two_pos (by omega)
        _ = 2 ^ m.log2 * 2 ^ (52 - m.log2) := Nat.pow_add ..
        _ ≤ m * 2 ^ (52 - m.log2) := Nat.mul_le_mul_right _ (Nat.log2_self_le hzero)
    · by_cases hlast : m.log2 ≤ 52
      · have hlt : m < 2 ^ (m.log2 + 1) := Nat.lt_log2_self
        have hdigits : m.log2 + 1 + (52 - m.log2) = 53 := by omega
        calc m * 2 ^ (52 - m.log2) ≤ 2 ^ (m.log2 + 1) * 2 ^ (52 - m.log2) := Nat.mul_le_mul_right _ hlt.le
          _ = 2 ^ 53 := by rw [← Nat.pow_add, hdigits]
      · have hnone : 52 - m.log2 = 0 := by omega
        rwa [hnone, Nat.pow_zero, Nat.mul_one]
  refine ⟨(1074 - t) * 2 ^ 52 + m * 2 ^ t, by omega, ?_⟩
  rw [units_add (.inr hlow) hhigh, unitsOfOne_eq (Nat.sub_add_cancel (ht.trans (by decide)))]
  ring

theorem ofInt_natCast (m : Nat) : ofInt m = round false (unitsOfOne * m) 1 := by
  have hsign : decide ((m : Int) < 0) = false := by simp
  unfold ofInt unitsOfOne
  rw [Int.natAbs_natCast, hsign]

theorem exists_ofInt_eq (hm : m ≤ 2 ^ 53) :
    ∃ i : Fin (top + 1), ofInt m = .signed false i ∧ i.val < top ∧ units i = unitsOfOne * m := by
  obtain ⟨k, hk, hunits⟩ := exists_place hm
  refine ⟨⟨k, hk.le.trans_lt top.lt_succ_self⟩, ?_, hk, hunits⟩
  rw [ofInt_natCast, ← hunits, round, nearest_units, ofPlace]
  congr 2
  exact Nat.min_eq_left hk.le

theorem ofInt?_of_le (hm : m ≤ 2 ^ 53) : ofInt? m = some (ofInt m) := by
  obtain ⟨i, hi, hfinite, -⟩ := exists_ofInt_eq hm
  have hfin : (ofInt m).isFinite = true := by rw [hi, isFinite, decide_eq_true hfinite]
  rw [ofInt?, if_pos hfin]

/-! ## Numbers within bounds -/

/-- A number from zero to a whole number; of the zeros it may be either. -/
def Within (x : Binary64) (m : Nat) : Prop :=
  ∃ negative k, x = .signed negative k ∧ (negative = true → k.val = 0) ∧ units k ≤ unitsOfOne * m

theorem lt_top_of_units_le (hm : m ≤ 2 ^ 53) (h : units k ≤ unitsOfOne * m) : k < top := by
  obtain ⟨j, hj, hunits⟩ := exists_place hm
  rw [← hunits] at h
  exact Nat.lt_of_le_of_lt (Nat.le_of_not_lt fun hlt => Nat.not_lt_of_le h (units_lt_units_iff.2 hlt)) hj

/-- **What is rounded stays within a bound that the exact result is within.** -/
theorem within_round {negative : Bool} (hm : m ≤ 2 ^ 53) (hd : 0 < d) (h : n ≤ unitsOfOne * m * d)
    (hsign : negative = true → n = 0) : Within (round negative n d) m := by
  -- the bound has a finite place, and rounding does not go beyond it
  obtain ⟨k, hk, hunits⟩ := exists_place hm
  have hle : nearest n d ≤ k := nearest_le_of_le hd (by rw [hunits]; exact h)
  have hmin : min (nearest n d) top = nearest n d := Nat.min_eq_left (hle.trans hk.le)
  refine ⟨negative, _, rfl, fun hn => ?_, ?_⟩
  · have hzero : nearest 0 d ≤ 0 := nearest_le_of_le hd (Nat.zero_le _)
    rw [hsign hn] at hmin ⊢
    exact hmin.trans (Nat.le_zero.1 hzero)
  · show units (min (nearest n d) top) ≤ _
    rw [hmin, ← hunits]
    exact units_le_units hle

theorem within_zero (negative : Bool) (m : Nat) : Within (zero negative) m := by
  have hplace : min 0 top = 0 := Nat.zero_min top
  refine ⟨negative, _, rfl, fun _ => hplace, ?_⟩
  show units (min 0 top) ≤ unitsOfOne * m
  rw [hplace]
  exact Nat.zero_le _

theorem Within.add (hx : Within x a) (hy : Within y b) (h : a + b ≤ 2 ^ 53) : Within (x.add y) (a + b) := by
  obtain ⟨p, i, rfl, hi, hia⟩ := hx
  obtain ⟨q, j, rfl, hj, hjb⟩ := hy
  have hitop : i.val ≠ top := (lt_top_of_units_le ((Nat.le_add_right a b).trans h) hia).ne
  have hjtop : j.val ≠ top := (lt_top_of_units_le ((Nat.le_add_left b a).trans h) hjb).ne
  have hunsigned : ∀ (negative : Bool) (k : Nat), (negative = true → k = 0) → signedUnits negative k = units k := by
    rintro (_ | _) k hk
    · rfl
    · rw [hk rfl]
      rfl
  rw [Binary64.add, if_neg hitop, if_neg hjtop, hunsigned p i hi, hunsigned q j hj]
  dsimp only
  split
  · exact within_zero _ _
  · have hpositive : decide ((units i : Int) + units j < 0) = false := decide_eq_false (by omega)
    rw [hpositive]
    refine within_round h Nat.one_pos ?_ nofun
    rw [← Int.natCast_add, Int.natAbs_natCast, Nat.mul_one, Nat.mul_add]
    exact Nat.add_le_add hia hjb

theorem mul_of_finite {p q : Bool} {i j : Fin (top + 1)} (hi : i.val ≠ top) (hj : j.val ≠ top) :
    (signed p i).mul (signed q j) = round (p != q) (units i * units j) unitsOfOne := by
  unfold Binary64.mul unitsOfOne
  dsimp only
  rw [if_neg (by simp [hi, hj])]

theorem Within.mul (hx : Within x a) (ha : a ≤ 2 ^ 53) (hn : n ≤ 2 ^ 53) (h : a * n ≤ 2 ^ 53) :
    Within (x.mul (ofInt n)) (a * n) := by
  obtain ⟨p, i, rfl, hi, hia⟩ := hx
  obtain ⟨j, hj, hjtop, hunits⟩ := exists_ofInt_eq hn
  rw [hj, mul_of_finite (lt_top_of_units_le ha hia).ne hjtop.ne]
  refine within_round h unitsOfOne_pos ?_ fun hp => ?_
  · rw [hunits]
    calc units i * (unitsOfOne * n) ≤ unitsOfOne * a * (unitsOfOne * n) := Nat.mul_le_mul_right _ hia
      _ = unitsOfOne * (a * n) * unitsOfOne := by ring
  · rw [hi (by simpa using hp), units_zero, Nat.zero_mul]

theorem div_of_finite {p q : Bool} {i j : Fin (top + 1)} (hi : i.val ≠ top) (hj : j.val ≠ top) (hpos : j.val ≠ 0) :
    (signed p i).div (signed q j) = round (p != q) (unitsOfOne * units i) (units j) := by
  unfold Binary64.div unitsOfOne
  dsimp only
  rw [if_neg hi, if_neg hj, if_neg hpos]

theorem Within.div (hx : Within x (a * n)) (hpos : 0 < n) (h : a * n ≤ 2 ^ 53) (ha : a ≤ 2 ^ 53) (hn : n ≤ 2 ^ 53) :
    Within (x.div (ofInt n)) a := by
  obtain ⟨p, i, rfl, hi, hia⟩ := hx
  obtain ⟨j, hj, hjtop, hunits⟩ := exists_ofInt_eq hn
  have hjpos : 0 < units j := by
    rw [hunits]
    exact Nat.mul_pos unitsOfOne_pos hpos
  have hjzero : j.val ≠ 0 := fun hzero => by
    rw [hzero, units_zero] at hjpos
    exact Nat.lt_irrefl 0 hjpos
  rw [hj, div_of_finite (lt_top_of_units_le h hia).ne hjtop.ne hjzero]
  refine within_round ha hjpos ?_ fun hp => ?_
  · rw [hunits]
    calc unitsOfOne * units i ≤ unitsOfOne * (unitsOfOne * (a * n)) := Nat.mul_le_mul_left _ hia
      _ = unitsOfOne * a * (unitsOfOne * n) := by ring
  · rw [hi (by simpa using hp), units_zero, Nat.mul_zero]

/-- **A sum that is rounded at every step stays within the sum of the bounds.** -/
theorem within_sum {α : Type} (value : α → Binary64) (bound : α → Nat) {l : List α}
    (hl : ∀ v ∈ l, Within (value v) (bound v)) (h : (l.map bound).sum ≤ 2 ^ 53) :
    Within (sum (l.map value)) (l.map bound).sum := by
  -- what is summed up so far stays within the bounds so far
  have hfold : ∀ (l : List α) (s : Binary64) (k : Nat), (∀ v ∈ l, Within (value v) (bound v)) → Within s k →
      k + (l.map bound).sum ≤ 2 ^ 53 → Within ((l.map value).foldl Binary64.add s) (k + (l.map bound).sum) := by
    intro l
    induction l with
    | nil => exact fun s k _ hs _ => hs
    | cons v l ih =>
      intro s k hl hs hk
      rw [List.map_cons, List.sum_cons, ← Nat.add_assoc] at hk
      rw [List.map_cons, List.foldl_cons, List.map_cons, List.sum_cons, ← Nat.add_assoc]
      have hv := hs.add (hl v List.mem_cons_self) (by omega)
      exact ih _ _ (fun w hw => hl w (List.mem_cons_of_mem v hw)) hv hk
  have hzero : Within 0 0 := by
    rw [show (0 : Binary64) = zero false by decide +kernel]
    exact within_zero false 0
  have hl := hfold l 0 0 hl hzero (by rwa [Nat.zero_add])
  rwa [Nat.zero_add] at hl

theorem le_iff_of_rank {i j : Int} (hx : x.rank = some i) (hy : y.rank = some j) : x ≤ y ↔ i ≤ j := by
  rw [le_iff]
  simp [hx, hy]

/-- **To be within a bound is to lie between zero and the bound.** -/
theorem within_iff (hm : m ≤ 2 ^ 53) : Within x m ↔ 0 ≤ x ∧ x ≤ ofInt m := by
  obtain ⟨j, hj, -, hunits⟩ := exists_ofInt_eq hm
  have hzero : (0 : Binary64).rank = some 0 := by decide +kernel
  rw [hj]
  cases x with
  | notANumber => simp [Within, le_iff, rank]
  | signed negative k =>
    have hwithin : Within (signed negative k) m ↔ (negative = true → k.val = 0) ∧ k.val ≤ j.val := by
      have hle : units k ≤ unitsOfOne * m ↔ k.val ≤ j.val := by
        rw [← hunits, ← Nat.not_lt, units_lt_units_iff, Nat.not_lt]
      rw [← hle]
      constructor
      · rintro ⟨_, _, h, hsign, hunits⟩
        cases h
        exact ⟨hsign, hunits⟩
      · rintro ⟨hsign, hunits⟩
        exact ⟨_, _, rfl, hsign, hunits⟩
    rw [hwithin, le_iff_of_rank hzero rfl, le_iff_of_rank rfl rfl]
    -- a negative number is at least zero only if it is the negative zero
    cases negative
    · simp
    · simp only [if_true, true_imp_iff, Bool.false_eq_true, if_false]
      omega

end Binary64
end BatteryIndicator
