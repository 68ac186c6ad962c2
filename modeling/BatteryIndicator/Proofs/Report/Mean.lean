import BatteryIndicator.Proofs.Number.Within
import BatteryIndicator.Proofs.Report.Answer
import BatteryIndicator.Step
import Mathlib.Algebra.BigOperators.Ring.List
/-!
# Mean — a mean of percentages is a percentage

The exact weighted mean of levels up to 100 is at most 100, and every product, every partial sum and the quotient is
rounded to a number within the bound that its exact value has: 100 times the weight, 100 times the weights so far, and
100.  These bounds are whole numbers up to `2^53`, so they have places of their own and nothing is rounded beyond them
(`meanLevel_between`).
-/
namespace BatteryIndicator
namespace Report

open Binary64 (Within ofInt ofInt? ofInt?_of_le within_iff within_sum)

variable {levels : Entries Int Binary64} {capacities : Entries Int Int} {load : Int → Nat}

theorem weight_nonneg (h : ∀ c ∈ capacities.values, 0 ≤ c) (index : Int) : 0 ≤ weight capacities index := by
  unfold weight
  cases hfind : capacities.find? index with
  | none => exact Int.le_refl 0
  | some c => exact h c (Entries.mem_values_of_find? hfind)

theorem load_le_sum {l : Int × Binary64} (h : l ∈ levels) : load l.1 ≤ (levels.keys.map load).sum :=
  List.single_le_sum (fun _ _ => Nat.zero_le _) _ (List.mem_map_of_mem (List.mem_map_of_mem h))

/-! ## Closed forms -/

theorem meanLevel_plain (hload : ∀ index, weight capacities index = load index) (hlevels : levels ≠ [])
    (htotal : (levels.keys.map load).sum = 0) :
    meanLevel levels capacities = .ok ((Binary64.sum levels.values).div (ofInt levels.length)) := by
  unfold meanLevel
  rw [← List.sum_eq_foldl, sum_weights hload, htotal]
  simp [hlevels]

theorem weighted_eq_ok {level : Binary64} {w : Nat} (h : w ≤ 2 ^ 53) :
    weighted level w = .ok (level.mul (ofInt w)) := by
  unfold weighted
  simp only [ofInt?_of_le h]

theorem meanLevel_weighted (hload : ∀ index, weight capacities index = load index)
    (hpos : 0 < (levels.keys.map load).sum) (htotal : (levels.keys.map load).sum ≤ 2 ^ 53) :
    meanLevel levels capacities = .ok ((Binary64.sum (levels.map fun l => l.2.mul (ofInt (load l.1)))).div
      (ofInt (levels.keys.map load).sum)) := by
  have hterms : (levels.mapM fun l => weighted l.2 (weight capacities l.1)) =
      .ok (levels.map fun l => l.2.mul (ofInt (load l.1))) := by
    refine (mapM_congr_left fun l hl => ?_).trans List.mapM_pure
    rw [hload, weighted_eq_ok ((load_le_sum hl).trans htotal)]
    rfl
  unfold meanLevel
  rw [← List.sum_eq_foldl, sum_weights hload, hterms]
  dsimp only
  rw [if_neg (by omega)]
  simp only [bind, Except.bind, ofInt?_of_le htotal]

/-! ## Bounds -/

theorem within_plain (hlevel : ∀ x ∈ levels.values, Within x 100) (hlevels : levels ≠ [])
    (hcount : 100 * levels.length ≤ 2 ^ 53) : Within ((Binary64.sum levels.values).div (ofInt levels.length)) 100 := by
  have hsum : (levels.map fun _ => 100).sum = 100 * levels.length := by simp [Nat.mul_comm]
  have hterm : ∀ l ∈ levels, Within l.2 100 := fun l hl => hlevel l.2 (List.mem_map_of_mem hl)
  have hbound := within_sum Prod.snd (fun _ => 100) hterm (hsum.trans_le hcount)
  rw [hsum] at hbound
  exact hbound.div (List.length_pos_of_ne_nil hlevels) hcount (by decide) (by omega)

theorem within_weighted (hlevel : ∀ x ∈ levels.values, Within x 100) (hpos : 0 < (levels.keys.map load).sum)
    (htotal : 100 * (levels.keys.map load).sum ≤ 2 ^ 53) :
    Within ((Binary64.sum (levels.map fun l => l.2.mul (ofInt (load l.1)))).div (ofInt (levels.keys.map load).sum))
      100 := by
  have hsum : (levels.map fun l => 100 * load l.1).sum = 100 * (levels.keys.map load).sum := by
    rw [Entries.keys, List.map_map]
    exact List.sum_map_mul_left ..
  have hterm : ∀ l ∈ levels, Within (l.2.mul (ofInt (load l.1))) (100 * load l.1) := fun l hl => by
    have hle : load l.1 ≤ (levels.keys.map load).sum := load_le_sum hl
    exact (hlevel l.2 (List.mem_map_of_mem hl)).mul (by decide) (by omega) (by omega)
  have hbound := within_sum _ _ hterm (hsum.trans_le htotal)
  rw [hsum] at hbound
  exact hbound.div hpos htotal (by decide) (by omega)

/-- **A mean of percentages is a percentage.**  Levels between 0 and 100, and capacities that are not negative, have a
mean between 0 and 100, if there is a level at all and neither 100 times the number of levels nor 100 times the total
capacity exceeds `2^53`; so a last step up to 100 covers every mean above its minimum. -/
theorem meanLevel_between (levels : Entries Int Binary64) (capacities : Entries Int Int) (hlevels : levels ≠ [])
    (hlevel : ∀ x ∈ levels.values, 0 ≤ x ∧ x ≤ 100) (hcapacity : ∀ c ∈ capacities.values, 0 ≤ c)
    (hcount : 100 * levels.length ≤ 2 ^ 53) (htotal : 100 * (levels.keys.map (weight capacities)).sum ≤ 2 ^ 53) :
    ∃ level, meanLevel levels capacities = .ok level ∧ 0 ≤ level ∧ level ≤ 100 ∧
      ∀ step : Step, step.maximum = 100 → step.minimum < level → step.covers level = true := by
  have hwithin : ∀ x, Within x 100 ↔ 0 ≤ x ∧ x ≤ 100 := fun x => within_iff (by decide)
  simp only [← hwithin] at hlevel
  choose load hload using fun index => Int.eq_ofNat_of_zero_le (weight_nonneg hcapacity index)
  rw [sum_weights hload] at htotal
  have htotal : 100 * (levels.keys.map load).sum ≤ 2 ^ 53 := by exact_mod_cast htotal
  obtain ⟨level, hmean, hbound⟩ : ∃ level, meanLevel levels capacities = .ok level ∧ Within level 100 := by
    rcases Nat.eq_zero_or_pos (levels.keys.map load).sum with hnothing | hpos
    · exact ⟨_, meanLevel_plain hload hlevels hnothing, within_plain hlevel hlevels hcount⟩
    · exact ⟨_, meanLevel_weighted hload hpos (by omega), within_weighted hlevel hpos htotal⟩
  obtain ⟨hnonneg, hle⟩ := (hwithin level).1 hbound
  refine ⟨level, hmean, hnonneg, hle, fun step hmax hmin => ?_⟩
  rw [← hmax] at hle
  exact Bool.and_eq_true_iff.2 ⟨hmin, hle⟩

/-- Levels of 33.3, 99.9 and 100: with capacities, of which one is missing and one belongs to no battery here, and
without any. -/
theorem meanLevel_between_fractional :
    let level digits := Binary64.ofDecimal false digits (-1)
    let levels : Entries Int Binary64 := [(2, level 333), (0, level 999), (1, level 1000)]
    let capacities : Entries Int Int := [(0, 4020), (2, 3), (7, 10 ^ 30)]
    (∃ mean, meanLevel levels capacities = .ok mean ∧ 0 ≤ mean ∧ mean ≤ 100 ∧
      ∀ step : Step, step.maximum = 100 → step.minimum < mean → step.covers mean = true) ∧
    ∃ mean, meanLevel levels [] = .ok mean ∧ 0 ≤ mean ∧ mean ≤ 100 ∧
      ∀ step : Step, step.maximum = 100 → step.minimum < mean → step.covers mean = true := by
  intro level levels capacities
  have hlevel : ∀ x ∈ levels.values, 0 ≤ x ∧ x ≤ 100 := by decide +kernel
  exact ⟨meanLevel_between levels capacities nofun hlevel (by decide +kernel) (by decide) (by decide +kernel),
    meanLevel_between levels [] nofun hlevel (by decide) (by decide) (by decide +kernel)⟩

end Report
end BatteryIndicator
